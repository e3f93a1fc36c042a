import TriggerFlow.Number.Decimal
import Mathlib.Data.List.Induction
import Mathlib.Tactic.Ring

/-!
# Digits read back

Decimal digits stand for the number that they were written for, whether zeros are put before them or not, and what
stands before a character which is no digit is read as far as there. Around the digits of a decimal there are few other
characters.
-/

namespace TriggerFlow

namespace Text

/-- The digits of a number that has at most so many. -/
theorem length_padNat {width n : Nat} (positive : 0 < width) (fits : n < 10 ^ width) :
    (padNat width n).toList.length = width := by
  have short : (Nat.toDigits 10 n).length ≤ width := (Nat.length_toDigits_le_iff (by omega) positive).mpr fits
  rw [padNat, String.toList_ofList, List.length_append, List.length_replicate]
  omega

theorem isDigit_padNat {width n : Nat} {c : Char} (mem : c ∈ (padNat width n).toList) : c.isDigit = true := by
  rw [padNat, String.toList_ofList, List.mem_append] at mem
  rcases mem with zero | digit
  · rw [List.eq_of_mem_replicate zero]
    rfl
  · exact Nat.isDigit_of_mem_toDigits (by omega) (by omega) digit

/-- Padding does not change what digits stand for. -/
theorem ofDigits_padNat (width n : Nat) : Decimal.ofDigits (padNat width n).toList = n := by
  rw [padNat, String.toList_ofList]
  change Nat.ofDigitChars 10 (_ ++ _) 0 = n
  rw [Nat.ofDigitChars_append, Nat.ofDigitChars_replicate_zero, Nat.mul_zero, Nat.ofDigitChars_ten_toDigits]

end Text

namespace Decimal

/-- The digits of a number stand for it. -/
theorem ofDigits_toDigits (n : Nat) : ofDigits (Nat.toDigits 10 n) = n := Nat.ofDigitChars_ten_toDigits

theorem ofDigits_append (front back : List Char) :
    ofDigits (front ++ back) = ofDigits front * 10 ^ back.length + ofDigits back := by
  change Nat.ofDigitChars 10 (front ++ back) 0 = _
  rw [Nat.ofDigitChars_append, Nat.ofDigitChars_eq_ofDigitChars_zero, Nat.mul_comm]
  rfl

theorem ofDigits_zeros (count : Nat) : ofDigits (List.replicate count '0') = 0 := by
  change Nat.ofDigitChars 10 _ 0 = 0
  rw [Nat.ofDigitChars_replicate_zero, Nat.mul_zero]

/-- A number of so many digits is as small as it looks. -/
theorem ofDigits_lt {digits : List Char} (all : ∀ c ∈ digits, c.isDigit = true) :
    ofDigits digits < 10 ^ digits.length := by
  induction digits using List.reverseRecOn with
  | nil => decide
  | append_singleton front last ih =>
    have low : ofDigits front < 10 ^ front.length := ih fun c mem => all c (List.mem_append_left _ mem)
    have digit : last.toNat - '0'.toNat < 10 := by
      have isDigit := all last (by simp)
      simp only [Char.isDigit, Bool.and_eq_true, decide_eq_true_eq, Char.toNat] at isDigit ⊢
      have high := UInt32.le_iff_toNat_le.mp isDigit.2
      change last.val.toNat ≤ 57 at high
      change last.val.toNat - 48 < 10
      omega
    rw [ofDigits] at low ⊢
    rw [List.foldl_append, List.length_append]
    simp only [List.foldl_cons, List.foldl_nil, List.length_singleton, Nat.pow_succ]
    omega

/-- A run of digits is read up to where it ends. -/
theorem digitRun_append {digits rest : List Char} (all : ∀ c ∈ digits, c.isDigit = true)
    (ends : ∀ c ∈ rest.head?, c.isDigit = false) : digitRun (digits ++ rest) = (digits, rest) := by
  have none : rest.takeWhile Char.isDigit = [] ∧ rest.dropWhile Char.isDigit = rest := by
    cases rest with
    | nil => exact ⟨rfl, rfl⟩
    | cons c rest =>
      have mark := ends c rfl
      exact ⟨List.takeWhile_cons_of_neg (by simp [mark]), List.dropWhile_cons_of_neg (by simp [mark])⟩
  rw [digitRun, List.takeWhile_append_of_pos all, List.dropWhile_append_of_pos all, none.1, none.2, List.append_nil]

theorem isDigit_toDigits {n : Nat} {c : Char} (mem : c ∈ Nat.toDigits 10 n) : c.isDigit = true :=
  Nat.isDigit_of_mem_toDigits (by omega) (by omega) mem

/-- No zero leads the digits of a positive number. -/
theorem head_toDigits {n : Nat} (some : 0 < n) : (Nat.toDigits 10 n).head? ≠ Option.some '0' := by
  intro zero
  obtain ⟨rest, digits⟩ := List.head?_eq_some_iff.mp zero
  have value := ofDigits_toDigits n
  have least : 10 ^ rest.length ≤ n := by
    by_contra less
    rcases Nat.eq_zero_or_pos rest.length with none | more
    · rw [none] at less
      omega
    · have short := (Nat.length_toDigits_le_iff (by omega : 1 < 10) more).mpr (Nat.lt_of_not_le less)
      rw [digits] at short
      exact absurd short (by simp)
  have small : ofDigits rest < 10 ^ rest.length :=
    ofDigits_lt fun c mem => isDigit_toDigits (n := n) (digits ▸ List.mem_cons_of_mem _ mem)
  rw [digits, show '0' :: rest = ['0'] ++ rest from rfl, ofDigits_append] at value
  have zero : ofDigits ['0'] = 0 := rfl
  rw [zero] at value
  omega

/-- A digit, or one of the other characters of a number. -/
def IsNumeric (c : Char) : Prop := c.isDigit = true ∨ c ∈ ['.', 'e', '+', '-']

section Layout

variable {digits : List Char} (all : ∀ c ∈ digits, c.isDigit = true) (point : Int)
include all

theorem isNumeric_positional (layout : Layout) : ∀ c ∈ positional layout digits point, IsNumeric c := by
  have zeros (count : Nat) : ∀ c ∈ List.replicate count '0', IsNumeric c := fun c mem =>
    .inl ((List.eq_of_mem_replicate mem).symm ▸ rfl)
  have dot : IsNumeric '.' := .inr (by decide)
  unfold positional
  split
  · simp only [List.append_assoc, List.forall_mem_append]
    exact ⟨by simp [IsNumeric], zeros _, fun c mem => .inl (all c mem)⟩
  · have whole (c : Char) (mem : c ∈ digits.take point.toNat ++ List.replicate (point.toNat - digits.length) '0') :
        IsNumeric c :=
      (List.mem_append.mp mem).elim (fun digit => .inl (all c (List.mem_of_mem_take digit))) (zeros _ c)
    dsimp only
    split
    · split
      · exact List.forall_mem_append.mpr ⟨whole, by simp [IsNumeric]⟩
      · exact whole
    · refine List.forall_mem_append.mpr ⟨whole, List.forall_mem_cons.mpr ⟨dot, fun c mem => ?_⟩⟩
      exact .inl (all c (List.mem_of_mem_drop mem))

theorem isNumeric_scientific : ∀ c ∈ scientific digits point, IsNumeric c := by
  have sign : IsNumeric (if point - 1 < 0 then '-' else '+') := by split <;> exact .inr (by decide)
  have power (c : Char) (mem : c ∈ (Text.padNat 2 (point - 1).natAbs).toList) : IsNumeric c :=
    .inl (Text.isDigit_padNat mem)
  refine List.forall_mem_append.mpr ⟨?_, List.forall_mem_cons.mpr ⟨.inr (by decide),
    List.forall_mem_cons.mpr ⟨sign, power⟩⟩⟩
  cases digits with
  | nil => simp [IsNumeric]
  | cons first others =>
    obtain ⟨digit, left⟩ := List.forall_mem_cons.mp all
    cases others with
    | nil => exact List.forall_mem_singleton.mpr (.inl digit)
    | cons second others =>
      exact List.forall_mem_cons.mpr ⟨.inl digit,
        List.forall_mem_cons.mpr ⟨.inr (by decide), fun c mem => .inl (left c mem)⟩⟩

end Layout

theorem isNumeric_layOut (layout : Layout) (d : Scaled) :
    ∀ c ∈ layOut layout d, IsNumeric c := by
  have all : ∀ c ∈ Nat.toDigits 10 d.digits, c.isDigit = true := fun _ => isDigit_toDigits
  unfold layOut
  dsimp only
  split
  · exact isNumeric_positional all _ layout
  · exact isNumeric_scientific all _

end Decimal

end TriggerFlow
