import TriggerFlow.Json.Printer
import TriggerFlow.Json.Reader
import TriggerFlow.Proofs.Number.Digits
import TriggerFlow.Proofs.Number.Shortest

/-!
# Reading printed numbers

An integer and a number with a fraction are read back from their text, unless what follows goes on with the number. Of a
number with a fraction the shortest digits are printed, with a point among them or an exponent behind them; both say the
same decimal.
-/

namespace TriggerFlow.Json.Reader

open Decimal

/-- Nothing in front that a number before it could go on with. -/
def Ends (rest : List Char) : Prop := ∀ c ∈ rest.head?, c.isDigit = false ∧ c ≠ '.' ∧ c ≠ 'e' ∧ c ≠ 'E'

/-- The whole part of a number: digits, and no zero before others. -/
structure Whole (whole : List Char) : Prop where
  digits : ∀ c ∈ whole, c.isDigit = true
  some : whole ≠ []
  leads : whole = ['0'] ∨ whole.head? ≠ Option.some '0'

theorem Whole.zero : Whole ['0'] := ⟨by simp, by simp, .inl rfl⟩

theorem Whole.toDigits (n : Nat) : Whole (Nat.toDigits 10 n) where
  digits _ := isDigit_toDigits
  some := Nat.toDigits_ne_nil
  leads := by
    rcases Nat.eq_zero_or_pos n with rfl | more
    · exact .inl (Nat.toDigits_zero 10)
    · exact .inr (head_toDigits more)

/-- A number is read part by part. -/
theorem number_whole {whole : List Char} (leads : Whole whole) (start : Nat) (negative : Bool) {rest : List Char}
    (ends : ∀ c ∈ rest.head?, c.isDigit = false) {digits rest' after : List Char} {power : Option Int}
    (fractional : fraction rest = (digits, rest')) (powered : exponent rest' = (power, after)) :
    number start negative (whole ++ rest) =
      if digits.isEmpty && power.isNone then
        if maxDigits < whole.length then .error (.tooManyDigits whole.length)
        else .ok (.int (if negative then -(ofDigits whole : Int) else ofDigits whole), after)
      else .ok (.float (nearest negative (ofDigits (whole ++ digits)) (power.getD 0 - digits.length)), after) := by
  have run := digitRun_append leads.digits ends
  have some : whole.isEmpty = false := List.isEmpty_eq_false_iff.mpr leads.some
  unfold number
  rw [run]
  dsimp only
  split
  · rename_i more
    obtain rfl : more = [] := by simpa using leads.leads
    simp only [List.nil_append, fractional, powered, List.isEmpty_cons, Bool.false_eq_true, if_false]
  · simp only [some, fractional, powered, Bool.false_eq_true, if_false]

theorem fraction_ends {rest : List Char} (ends : Ends rest) : fraction rest = ([], rest) := by
  unfold fraction
  split
  · exact absurd rfl (ends '.' rfl).2.1
  · rfl

theorem exponent_ends {rest : List Char} (ends : Ends rest) : exponent rest = (none, rest) := by
  unfold exponent
  split
  · obtain ⟨-, -, small, large⟩ := ends _ rfl
    rw [if_neg (by simp [small, large])]
  · rfl

theorem fraction_point {digits rest : List Char} (all : ∀ c ∈ digits, c.isDigit = true) (some : digits ≠ [])
    (ends : ∀ c ∈ rest.head?, c.isDigit = false) : fraction ('.' :: digits ++ rest) = (digits, rest) := by
  have run := digitRun_append all ends
  have more : digits.isEmpty = false := List.isEmpty_eq_false_iff.mpr some
  simp only [fraction, List.cons_append, run, more]
  rfl

theorem exponent_mark {digits rest : List Char} (all : ∀ c ∈ digits, c.isDigit = true) (some : digits ≠ [])
    (ends : Ends rest) (negative : Bool) :
    exponent ('e' :: (if negative then '-' else '+') :: digits ++ rest) =
      (Option.some (if negative then -(ofDigits digits : Int) else ofDigits digits), rest) := by
  have run := digitRun_append all fun c mem => (ends c mem).1
  have more : digits.isEmpty = false := List.isEmpty_eq_false_iff.mpr some
  have signs : signed ((if negative then '-' else '+') :: (digits ++ rest)) = (negative, digits ++ rest) := by
    cases negative <;> rfl
  simp only [exponent, List.cons_append, true_or, if_true, signs, run, more, Bool.false_eq_true, if_false]

theorem number_int (start : Nat) (negative : Bool) (n : Nat) {rest : List Char} (ends : Ends rest) :
    number start negative (Nat.toDigits 10 n ++ rest) =
      if maxDigits < (Nat.toDigits 10 n).length then .error (.tooManyDigits (Nat.toDigits 10 n).length)
      else .ok (.int (if negative then -(n : Int) else n), rest) := by
  rw [number_whole (.toDigits n) start negative (fun c mem => (ends c mem).1) (fraction_ends ends) (exponent_ends ends),
    ofDigits_toDigits]
  rfl

/-- A text that is read as a number with a fraction, from digits that say the same decimal. -/
def ReadAs (d : Scaled) (start : Nat) (negative : Bool) (text rest : List Char) : Prop :=
  ∃ read : Scaled, read.digits ≠ 0 ∧ read.value = d.value ∧
    number start negative (text ++ rest) = .ok (.float (nearest negative read.digits read.exponent), rest)

theorem readAs_fraction {d : Scaled} {whole digits : List Char} (leads : Whole whole)
    (all : ∀ c ∈ digits, c.isDigit = true) (some : digits ≠ []) (nonzero : ofDigits (whole ++ digits) ≠ 0)
    (value : (ofDigits (whole ++ digits) : ℚ) * 10 ^ (-(digits.length : Int)) = d.value)
    (start : Nat) (negative : Bool) {rest : List Char} (ends : Ends rest) :
    ReadAs d start negative (whole ++ '.' :: digits) rest := by
  refine ⟨⟨ofDigits (whole ++ digits), -(digits.length : Int)⟩, nonzero, value, ?_⟩
  have point := fraction_point all some fun c mem => (ends c mem).1
  have more : digits.isEmpty = false := List.isEmpty_eq_false_iff.mpr some
  rw [List.append_assoc, number_whole leads start negative (by simp) point (exponent_ends ends), more]
  simp

theorem readAs_exponent {d : Scaled} {whole digits : List Char} (leads : Whole whole)
    (all : ∀ c ∈ digits, c.isDigit = true) (power : Int) (nonzero : ofDigits (whole ++ digits) ≠ 0)
    (value : (ofDigits (whole ++ digits) : ℚ) * 10 ^ (power - digits.length) = d.value)
    (start : Nat) (negative : Bool) {rest : List Char} (ends : Ends rest) :
    ReadAs d start negative (whole ++ ((if digits = [] then [] else '.' :: digits) ++
      'e' :: (if power < 0 then '-' else '+') :: (Text.padNat 2 power.natAbs).toList)) rest := by
  refine ⟨⟨ofDigits (whole ++ digits), power - digits.length⟩, nonzero, value, ?_⟩
  have width : (Text.padNat 2 power.natAbs).toList ≠ [] := by
    intro none
    simp [Text.padNat] at none
  have marked := exponent_mark (fun _ => Text.isDigit_padNat) width ends (decide (power < 0))
  have signed : (if decide (power < 0) = true then -(power.natAbs : Int) else power.natAbs) = power := by
    simp only [decide_eq_true_eq]
    split <;> omega
  rw [Text.ofDigits_padNat, signed] at marked
  simp only [decide_eq_true_eq, List.cons_append] at marked
  have fractional : fraction ((if digits = [] then [] else '.' :: digits) ++
      'e' :: (if power < 0 then '-' else '+') :: ((Text.padNat 2 power.natAbs).toList ++ rest)) =
        (digits, 'e' :: (if power < 0 then '-' else '+') :: ((Text.padNat 2 power.natAbs).toList ++ rest)) := by
    split
    · rename_i none
      rw [none]
      rfl
    · rename_i some
      exact fraction_point all some (by simp)
  have stops : ∀ c ∈ ((if digits = [] then [] else '.' :: digits) ++
      'e' :: (if power < 0 then '-' else '+') :: ((Text.padNat 2 power.natAbs).toList ++ rest)).head?,
        c.isDigit = false := by
    split <;> simp
  rw [List.append_assoc, List.append_assoc, List.cons_append, List.cons_append,
    number_whole leads start negative stops fractional marked]
  simp

theorem readAs_scientific {d : Scaled} (some : d.digits ≠ 0) (start : Nat) (negative : Bool) {rest : List Char}
    (ends : Ends rest) :
    ReadAs d start negative (scientific (Nat.toDigits 10 d.digits) ((Nat.toDigits 10 d.digits).length + d.exponent))
      rest := by
  have all (c : Char) : c ∈ Nat.toDigits 10 d.digits → c.isDigit = true := isDigit_toDigits
  have leads := head_toDigits (Nat.pos_of_ne_zero some)
  have stands := ofDigits_toDigits d.digits
  cases digits : Nat.toDigits 10 d.digits with
  | nil => exact absurd digits Nat.toDigits_ne_nil
  | cons first others =>
    rw [digits] at all leads stands
    have whole : Whole [first] :=
      ⟨by simpa using all first (by simp), by simp, .inr (by simpa using leads)⟩
    have value : (ofDigits ([first] ++ others) : ℚ) *
        10 ^ (((first :: others).length + d.exponent - 1) - (others.length : Int)) = d.value := by
      rw [List.singleton_append, stands, Scaled.value]
      congr 2
      rw [List.length_cons]
      push_cast
      ring
    have read := readAs_exponent whole (fun c mem => all c (List.mem_cons_of_mem _ mem)) _
      (by rw [List.singleton_append, stands]; exact some) value start negative ends
    rw [← List.append_assoc] at read
    cases others <;> exact read

section Positional

variable {d : Scaled} {digits : List Char} (all : ∀ c ∈ digits, c.isDigit = true)
  (stands : ofDigits digits = d.digits) (some : d.digits ≠ 0) (start : Nat) (negative : Bool) {rest : List Char}
  (ends : Ends rest)

theorem isDigit_zeros {count : Nat} {c : Char} (mem : c ∈ List.replicate count '0') : c.isDigit = true := by
  rw [List.eq_of_mem_replicate mem]
  rfl

/-- Digits with zeros behind them are a whole part if they are one themselves. -/
theorem Whole.of_digits {digits : List Char} (all : ∀ c ∈ digits, c.isDigit = true)
    (leads : digits.head? ≠ Option.some '0') (length : 0 < digits.length) (place : Nat) (positive : 0 < place)
    (count : Nat) : Whole (digits.take place ++ List.replicate count '0') := by
  obtain ⟨c, others, rfl⟩ := List.exists_cons_of_length_pos length
  obtain ⟨more, rfl⟩ := Nat.exists_eq_succ_of_ne_zero positive.ne'
  refine ⟨fun c mem => ?_, by simp, .inr (by simpa using leads)⟩
  rcases List.mem_append.mp mem with digit | zero
  · exact all c (List.mem_of_mem_take digit)
  · exact isDigit_zeros zero

include stands some ends

/-- All digits stand before the point, with a zero behind it. -/
theorem readAs_before {place : Nat} (up : (place : Int) = digits.length + d.exponent)
    (atMost : digits.length ≤ place)
    (whole : Whole (digits.take place ++ List.replicate (place - digits.length) '0')) :
    ReadAs d start negative (digits.take place ++ List.replicate (place - digits.length) '0' ++ ['.', '0'])
      rest := by
  obtain ⟨power, exact⟩ : ∃ power : Nat, d.exponent = power := Int.eq_ofNat_of_zero_le (by omega)
  have zeros : place - digits.length = power := by omega
  have value : ofDigits (digits.take place ++ List.replicate (place - digits.length) '0' ++ ['0']) =
      d.digits * 10 ^ (power + 1) := by
    rw [List.take_of_length_le atMost, zeros, ofDigits_append, ofDigits_append, ofDigits_zeros, stands,
      List.length_replicate, Nat.pow_succ, show ofDigits ['0'] = 0 from rfl]
    simp [Nat.mul_assoc]
  refine readAs_fraction whole (by simp) (by simp) ?_ ?_ start negative ends
  · rw [value]
    positivity
  · rw [value, Scaled.value, exact]
    push_cast
    rw [pow_succ]
    field_simp
    simp

include all

/-- All digits stand behind the point. -/
theorem readAs_behind (length : 0 < digits.length) (behind : digits.length + d.exponent ≤ 0) :
    ReadAs d start negative
      (['0', '.'] ++ List.replicate (-(digits.length + d.exponent)).toNat '0' ++ digits) rest := by
  have fractional : ∀ c ∈ List.replicate (-(digits.length + d.exponent)).toNat '0' ++ digits, c.isDigit = true :=
    fun c mem => (List.mem_append.mp mem).elim isDigit_zeros (all c)
  have whole : ofDigits (['0'] ++ (List.replicate (-(digits.length + d.exponent)).toNat '0' ++ digits)) =
      d.digits := by
    rw [ofDigits_append, ofDigits_append, ofDigits_zeros, stands]
    simp [show ofDigits ['0'] = 0 from rfl]
  refine readAs_fraction .zero fractional ?_ (whole ▸ some) ?_ start negative ends
  · intro none
    rw [(List.append_eq_nil_iff.mp none).2] at length
    exact absurd length (Nat.lt_irrefl 0)
  · rw [whole, Scaled.value]
    congr 2
    rw [List.length_append, List.length_replicate]
    omega

/-- The point stands among the digits. -/
theorem readAs_amid {place : Nat} (up : (place : Int) = digits.length + d.exponent) (more : place < digits.length)
    (whole : Whole (digits.take place)) :
    ReadAs d start negative (digits.take place ++ '.' :: digits.drop place) rest := by
  have value : ofDigits (digits.take place ++ digits.drop place) = d.digits := by
    rw [List.take_append_drop, stands]
  have left : digits.drop place ≠ [] := fun none => absurd (List.drop_eq_nil_iff.mp none) (by omega)
  refine readAs_fraction whole (fun c mem => all c (List.mem_of_mem_drop mem)) left (value ▸ some) ?_ start negative ends
  rw [value, Scaled.value]
  congr 2
  rw [List.length_drop]
  omega

end Positional

theorem readAs_positional {d : Scaled} (some : d.digits ≠ 0) (start : Nat) (negative : Bool) {rest : List Char}
    (ends : Ends rest) :
    ReadAs d start negative
      (positional .json (Nat.toDigits 10 d.digits) ((Nat.toDigits 10 d.digits).length + d.exponent)) rest := by
  have all (c : Char) : c ∈ Nat.toDigits 10 d.digits → c.isDigit = true := isDigit_toDigits
  have leads := head_toDigits (Nat.pos_of_ne_zero some)
  have stands := ofDigits_toDigits d.digits
  have length : 0 < (Nat.toDigits 10 d.digits).length := Nat.length_toDigits_pos
  generalize Nat.toDigits 10 d.digits = digits at all leads stands length
  unfold positional
  split
  · rename_i behind
    exact readAs_behind all stands some start negative ends length behind
  · rename_i before
    have place : (((digits.length + d.exponent).toNat : Nat) : Int) = digits.length + d.exponent := by omega
    have whole := Whole.of_digits all leads length (digits.length + d.exponent).toNat (by omega)
    dsimp only
    split
    · rename_i short
      exact readAs_before stands some start negative ends place (List.drop_eq_nil_iff.mp short) (whole _)
    · rename_i long
      have more : (digits.length + d.exponent).toNat < digits.length :=
        Nat.lt_of_not_le fun none => long (List.drop_eq_nil_iff.mpr none)
      have none : (digits.length + d.exponent).toNat - digits.length = 0 := by omega
      rw [none, List.replicate_zero, List.append_nil]
      exact readAs_amid all stands some start negative ends place more (by simpa using whole 0)

/-- A decimal is read back from its text, whichever way it is laid out. -/
theorem readAs_layOut {d : Scaled} (some : d.digits ≠ 0) (start : Nat) (negative : Bool) {rest : List Char}
    (ends : Ends rest) : ReadAs d start negative (layOut .json d) rest := by
  unfold layOut
  dsimp only
  split
  · exact readAs_positional some start negative ends
  · exact readAs_scientific some start negative ends

end TriggerFlow.Json.Reader
