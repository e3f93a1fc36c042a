import TriggerFlow.Proofs.Json.Plain
import TriggerFlow.Proofs.Record.Reading

/-!
# What is read from plain data is plain

A record of plain data gives values which can be written as plain data again. Texts do so by themselves; an integer is
no longer than the text that it has been read from, and no number but a NaN is read as a NaN.
-/

namespace TriggerFlow.Record

variable {datum : Json}

section Integer

theorem length_trimWhiteSpace_le (text : List Char) : (Text.trimWhiteSpace text).length ≤ text.length := by
  have front := (List.dropWhile_sublist Text.isWhiteSpace (l := text)).length_le
  have back := (List.dropWhile_sublist Text.isWhiteSpace (l := (text.dropWhile Text.isWhiteSpace).reverse)).length_le
  rw [List.length_reverse] at back
  rw [Text.trimWhiteSpace, List.length_reverse]
  exact back.trans front

theorem length_signed_le (text : List Char) : (Decimal.signed text).2.length ≤ text.length := by
  unfold Decimal.signed
  split <;> simp

theorem length_cutFirst?_le {separator : Char} {text : List Char} {parts : List Char × List Char}
    (cut : Text.cutFirst? separator text = some parts) : parts.1.length ≤ text.length := by
  induction text generalizing parts with
  | nil => cases cut
  | cons c rest ih =>
    unfold Text.cutFirst? at cut
    split at cut
    · cases cut
      simp
    · obtain ⟨others, found, rfl⟩ := Option.map_eq_some_iff.mp cut
      simpa using ih found

theorem length_dropZeroFraction?_le {digits whole : List Char} (found : dropZeroFraction? digits = some whole) :
    whole.length ≤ digits.length := by
  unfold dropZeroFraction? at found
  split at found
  · cases found
    exact le_rfl
  · rename_i cut
    split at found
    · cases found
      exact length_cutFirst?_le cut
    · cases found

theorem length_dropUnderscores?_le {digits left : List Char} (found : dropUnderscores? digits = some left) :
    left.length ≤ digits.length := by
  unfold dropUnderscores? at found
  split at found
  · cases found
  · cases found
    exact List.length_filter_le _ _

/-- An integer that a text writes has no more digits than the text has characters. -/
theorem isPlain_of_integerOfText {s : String} {n : Int} (reads : integerOfText s = .value n) :
    (Json.int n).isPlain = true := by
  unfold integerOfText at reads
  split at reads
  · cases reads
  · rename_i short
    dsimp only at reads
    split at reads
    · rename_i digits found
      obtain ⟨whole, cut, dropped⟩ := Option.bind_eq_some_iff.mp found
      split at reads
      · cases reads
      · rename_i some
        rw [Bool.or_eq_true, not_or, Bool.not_eq_true, Bool.not_eq_true, Bool.not_eq_false'] at some
        have length := ((length_dropUnderscores?_le dropped).trans (length_dropZeroFraction?_le cut)).trans
          ((length_signed_le _).trans (length_trimWhiteSpace_le s.toList))
        rw [String.length_toList] at length
        cases reads
        exact Json.Reader.isPlain_int (List.all_eq_true.mp some.2) some.1 (by omega)
    · cases reads

theorem isPlain_of_small {n : Int} (small : n.natAbs < 10 ^ Json.maxDigits) : (Json.int n).isPlain = true := by
  rw [Json.isPlain, decide_eq_true_eq]
  exact (Nat.length_toDigits_le_iff (by decide) (by decide)).mpr small

theorem isPlain_of_integer {n : Int} (plain : datum.isPlain = true) (reads : integer datum = .value n) :
    (Json.int n).isPlain = true := by
  have bound : 2 ^ 63 ≤ 10 ^ Json.maxDigits := by decide +kernel
  cases datum with
  | bool b =>
    cases reads
    cases b <;> rfl
  | int k =>
    cases reads
    exact plain
  | float x =>
    simp only [integer, integerOfFloat] at reads
    split at reads
    · cases reads
    · split at reads
      · cases reads
      · split at reads
        · rename_i small
          cases reads
          exact isPlain_of_small (lt_of_lt_of_le small bound)
        · cases reads
  | text s => exact isPlain_of_integerOfText reads
  | _ => cases reads

end Integer

section Number

theorem isPlain_float {x : Binary64} (number : x.isNaN = false) : (Json.float x).isPlain = true := by
  simp [Json.isPlain, number]

theorem isPlain_infinity (negative : Bool) : (Json.float (.infinity negative)).isPlain = true := by
  cases negative <;> rfl

theorem isPlain_of_unsigned? {negative : Bool} {text : List Char} {x : Binary64}
    (reads : Decimal.unsigned? negative text = some x) : (Json.float x).isPlain = true := by
  unfold Decimal.unsigned? at reads
  dsimp only at reads
  split at reads
  all_goals
    split at reads
    · cases reads
    · obtain ⟨exponent, -, read⟩ := Option.bind_eq_some_iff.mp reads
      cases read
      exact isPlain_float (Json.Reader.isNaN_nearest _ _ _)

theorem isPlain_of_read? {text : List Char} {x : Binary64} (reads : Decimal.read? text = some x) :
    (Json.float x).isPlain = true := by
  unfold Decimal.read? at reads
  dsimp only at reads
  split at reads
  · cases reads
    exact isPlain_infinity _
  · split at reads
    · cases reads
      rfl
    · exact isPlain_of_unsigned? reads

theorem isPlain_of_number {x : Binary64} (plain : datum.isPlain = true) (reads : number datum = .value x) :
    (Json.float x).isPlain = true := by
  have integral {n : Int} {y : Binary64} (found : Binary64.ofInt? n = some y) : y.isNaN = false := by
    unfold Binary64.ofInt? at found
    dsimp only at found
    split at found
    · rename_i finite
      cases found
      unfold Binary64.isFinite at finite
      split at finite
      · rename_i shape
        simp [Binary64.isNaN, shape]
      · cases finite
    · cases found
  cases datum with
  | bool b =>
    cases reads
    cases b <;> decide +kernel
  | int n =>
    simp only [number] at reads
    split at reads
    · rename_i found
      cases reads
      exact isPlain_float (integral found)
    · cases reads
  | float y =>
    cases reads
    exact plain
  | text s =>
    simp only [number, numberOfText] at reads
    split at reads
    · rename_i found
      cases reads
      obtain ⟨digits, -, read⟩ := Option.bind_eq_some_iff.mp found
      exact isPlain_of_read? read
    · cases reads
  | _ => cases reads

theorem isPlain_of_positive {x : Binary64} (plain : datum.isPlain = true) (reads : positive datum = .value x) :
    (Json.float x).isPlain = true := by
  unfold positive at reads
  split at reads
  · rename_i found
    split at reads
    · cases reads
      exact isPlain_of_number plain found
    · cases reads
  · rename_i never
    exact absurd reads (never x)

end Number

section Member

variable {α : Type} {m : Members} {key : String} {a : α} {read : Json → Reading α}

theorem isPlain_of_members {found : Members} (plain : datum.isPlain = true) (reads : members datum = .value found) :
    (Json.object found).isPlain = true := by
  cases datum <;> cases reads
  exact plain

theorem isPlain_of_get? (plain : (Json.object m).isPlain = true) (found : m.get? key = some datum) :
    datum.isPlain = true :=
  (Json.isPlain_object.mp plain).2 _ (Ordered.mem_of_get? found)

/-- What holds of everything that is read from plain data, and of the default, holds of a member that has a default. -/
theorem of_optional {P : α → Prop} {fallback : α} (plain : (Json.object m).isPlain = true) (given : P fallback)
    (each : ∀ datum, datum.isPlain = true → read datum = .value a → P a)
    (reads : optional m key fallback read = .value a) : P a := by
  rcases get?_of_optional reads with ⟨datum, found, value⟩ | ⟨-, rfl⟩
  · exact each datum (isPlain_of_get? plain found) value
  · exact given

end Member

/-- What holds of everything that is read from plain data holds of every item of a list. -/
theorem of_items {α : Type} {read : Json → Reading α} {found : List α} {P : α → Prop} (plain : datum.isPlain = true)
    (each : ∀ datum a, datum.isPlain = true → read datum = .value a → P a) (reads : items read datum = .value found) :
    ∀ a ∈ found, P a := by
  unfold items at reads
  split at reads
  · intro a mem
    obtain ⟨datum, within, value⟩ := reads_of_itemsFrom reads a mem
    exact each datum a (Json.isPlain_list.mp plain datum within) value
  · cases reads

end TriggerFlow.Record
