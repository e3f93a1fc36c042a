import TriggerFlow.Json.Reader
import TriggerFlow.Proofs.Number.Digits
import TriggerFlow.Proofs.Ordered

/-!
# What a text can say of a datum

A text tells all NaNs apart from other numbers and none of them from another, an object in it has its last member of a
name, and an integer that is too long is not read. Reading again what has been written is told member by member; the
plain data are those that it gives back as they are, and nothing else is ever read.
-/

namespace TriggerFlow.Json

mutual

/-- A datum that a text can hold as it is: no integer of too many digits, no NaN but one, and no two members of an
object with one name. -/
def isPlain : Json → Bool
  | .int n => (Nat.toDigits 10 n.natAbs).length ≤ maxDigits
  | .float x => !x.isNaN || x = .nan
  | .list items => plainItems items
  | .object members => decide (Ordered.keys members).Nodup && plainMembers members
  | _ => true

def plainItems : List Json → Bool
  | [] => true
  | item :: items => isPlain item && plainItems items

def plainMembers : List (String × Json) → Bool
  | [] => true
  | (_, datum) :: members => isPlain datum && plainMembers members

end

mutual

/-- A datum written as a text and read again; or the count of digits of the first integer that is too long. -/
def reread : Json → Except Nat Json
  | .int n =>
    if maxDigits < (Nat.toDigits 10 n.natAbs).length then .error (Nat.toDigits 10 n.natAbs).length else .ok (.int n)
  | .float x => .ok (.float (if x.isNaN then .nan else x))
  | .list items => list <$> rereadItems items
  | .object members => object <$> rereadMembers [] members
  | datum => .ok datum

def rereadItems : List Json → Except Nat (List Json)
  | [] => .ok []
  | item :: items => do
    let item ← reread item
    let items ← rereadItems items
    pure (item :: items)

/-- The members of an object, set in those read before. -/
def rereadMembers (before : Members) : List (String × Json) → Except Nat Members
  | [] => .ok before
  | (key, datum) :: members => do
    let datum ← reread datum
    rereadMembers (before.set key datum) members

end

@[simp] theorem isPlain_null : null.isPlain = true := rfl

@[simp] theorem isPlain_bool (b : Bool) : (bool b).isPlain = true := rfl

@[simp] theorem isPlain_text (s : String) : (text s).isPlain = true := rfl

@[simp] theorem isPlain_ofText? (s : Option String) : (ofText? s).isPlain = true := by cases s <;> rfl

theorem plainItems_iff {items : List Json} : plainItems items = true ↔ ∀ item ∈ items, item.isPlain = true := by
  induction items with
  | nil => simp [plainItems]
  | cons item items ih => simp [plainItems, ih]

theorem plainMembers_iff {m : Members} : plainMembers m = true ↔ ∀ pair ∈ m, pair.2.isPlain = true := by
  induction m with
  | nil => simp [plainMembers]
  | cons pair m ih =>
    obtain ⟨key, datum⟩ := pair
    simp [plainMembers, ih]

theorem isPlain_list {items : List Json} : (list items).isPlain = true ↔ ∀ item ∈ items, item.isPlain = true := by
  rw [isPlain, plainItems_iff]

theorem isPlain_object {m : Members} :
    (object m).isPlain = true ↔ m.keys.Nodup ∧ ∀ pair ∈ m, pair.2.isPlain = true := by
  rw [isPlain, Bool.and_eq_true, decide_eq_true_eq, plainMembers_iff]

mutual

/-- A text gives a plain datum back. -/
theorem reread_of_isPlain {datum : Json} (plain : datum.isPlain = true) : reread datum = .ok datum := by
  cases datum with
  | int n =>
    rw [isPlain, decide_eq_true_eq] at plain
    rw [reread, if_neg (by omega)]
  | float x =>
    rw [reread]
    split
    · rename_i nan
      have only : x = .nan := by simpa [isPlain, nan] using plain
      rw [only]
    · rfl
  | list items =>
    rw [reread, rereadItems_of_plain (isPlain_list.mp plain)]
    rfl
  | object m =>
    obtain ⟨distinct, each⟩ := isPlain_object.mp plain
    rw [reread, rereadMembers_of_plain each, Ordered.overlay_nil distinct]
    rfl
  | _ => rw [reread] <;> simp

theorem rereadItems_of_plain {items : List Json} (plain : ∀ item ∈ items, item.isPlain = true) :
    rereadItems items = .ok items := by
  match items with
  | [] => rfl
  | item :: items =>
    rw [rereadItems, reread_of_isPlain (plain item List.mem_cons_self),
      rereadItems_of_plain fun item mem => plain item (List.mem_cons_of_mem _ mem)]
    rfl

theorem rereadMembers_of_plain {before : Members} {m : List (String × Json)}
    (plain : ∀ pair ∈ m, pair.2.isPlain = true) : rereadMembers before m = .ok (before.overlay m) := by
  match m with
  | [] => rfl
  | (key, datum) :: m =>
    rw [rereadMembers, reread_of_isPlain (plain _ List.mem_cons_self)]
    exact rereadMembers_of_plain fun pair mem => plain pair (List.mem_cons_of_mem _ mem)

end

/-- What has been read before stays, unless a later member has its name. -/
theorem get?_of_rereadMembers {before found : Members} {m : List (String × Json)} {key : String}
    (read : rereadMembers before m = .ok found) (apart : ∀ pair ∈ m, pair.1 ≠ key) :
    found.get? key = before.get? key := by
  induction m generalizing before with
  | nil =>
    cases read
    rfl
  | cons pair m ih =>
    obtain ⟨other, datum⟩ := pair
    rw [rereadMembers] at read
    cases first : reread datum with
    | error n =>
      rw [first] at read
      cases read
    | ok again =>
      rw [first] at read
      rw [ih read fun pair mem => apart pair (List.mem_cons_of_mem _ mem),
        Ordered.get?_set_of_ne _ _ (apart _ List.mem_cons_self)]

/-- A text at the front of an object is read again, unless a later member has its name. -/
theorem get?_of_reread {key s : String} {m : List (String × Json)} {datum : Json}
    (read : reread (object ((key, text s) :: m)) = .ok datum) (apart : ∀ pair ∈ m, pair.1 ≠ key) :
    ∃ found, datum = object found ∧ Ordered.get? found key = some (text s) := by
  rw [reread] at read
  cases members : rereadMembers [] ((key, text s) :: m) with
  | error n =>
    rw [members] at read
    cases read
  | ok found =>
    rw [members] at read
    cases read
    refine ⟨found, rfl, ?_⟩
    rw [rereadMembers, reread] at members
    · rw [get?_of_rereadMembers members apart]
      exact Ordered.get?_set_self _ _ _
    all_goals simp

namespace Reader

/-- Rounding never gives a NaN. -/
theorem isNaN_ofCode (negative : Bool) {code : Nat} (small : code ≤ 2047 * twoTo 52) :
    (Binary64.ofCode negative code).isNaN = false := by
  have size : twoTo 52 = 4503599627370496 := rfl
  have sign : twoTo 63 = 9223372036854775808 := rfl
  have bits : (Binary64.ofCode negative code).bits.toNat = if negative then code + twoTo 63 else code := by
    rw [Binary64.ofCode, UInt64.toNat_ofNat']
    refine Nat.mod_eq_of_lt ?_
    split <;> omega
  have fraction (infinite : (Binary64.ofCode negative code).bits.toNat / twoTo 52 % 2048 = 2047) :
      (Binary64.ofCode negative code).bits.toNat % twoTo 52 = 0 := by
    rw [bits, size, sign] at infinite
    rw [bits, size, sign]
    rw [size] at small
    cases negative <;> simp only [if_true, Bool.false_eq_true, if_false] at infinite ⊢ <;> omega
  rw [Binary64.isNaN, decide_eq_false_iff_not, Binary64.shape]
  split
  · rw [if_pos (fraction ‹_›)]
    simp
  · split <;> simp

theorem isNaN_nearest (negative : Bool) (digits : Nat) (exponent : Int) :
    (Decimal.nearest negative digits exponent).isNaN = false := by
  have zero : (Binary64.zero negative).isNaN = false := isNaN_ofCode negative (Nat.zero_le _)
  unfold Decimal.nearest
  dsimp only
  split
  · exact zero
  · split
    · exact isNaN_ofCode negative le_rfl
    · split
      · exact zero
      · unfold Binary64.ofRatio
        split
        · exact zero
        · exact isNaN_ofCode negative (Nat.min_le_right _ _)

theorem isPlain_int {negative : Bool} {whole : List Char} (digits : ∀ c ∈ whole, c.isDigit = true)
    (some : whole.isEmpty = false) (short : ¬ maxDigits < whole.length) :
    (int (if negative then -(Decimal.ofDigits whole : Int) else Decimal.ofDigits whole)).isPlain = true := by
  have length : 0 < whole.length := List.length_pos_of_ne_nil (List.isEmpty_eq_false_iff.mp some)
  have size : (if negative then -(Decimal.ofDigits whole : Int) else Decimal.ofDigits whole).natAbs =
      Decimal.ofDigits whole := by
    split <;> omega
  rw [isPlain, decide_eq_true_eq, size]
  have few := (Nat.length_toDigits_le_iff (by decide) length).mpr (Decimal.ofDigits_lt digits)
  exact few.trans (Nat.le_of_not_lt short)

theorem isPlain_number {start : Nat} {negative : Bool} {input after : List Char} {datum : Json}
    (read : number start negative input = .ok (datum, after)) : datum.isPlain = true := by
  have finish (whole rest : List Char) (digits : ∀ c ∈ whole, c.isDigit = true)
      (read : (if whole.isEmpty then .error (.malformed start)
        else if (fraction rest).1.isEmpty && (exponent (fraction rest).2).1.isNone then
          if maxDigits < whole.length then .error (.tooManyDigits whole.length)
          else .ok (.int (if negative then -(Decimal.ofDigits whole : Int) else Decimal.ofDigits whole),
            (exponent (fraction rest).2).2)
        else .ok (.float (Decimal.nearest negative (Decimal.ofDigits (whole ++ (fraction rest).1))
          ((exponent (fraction rest).2).1.getD 0 - (fraction rest).1.length)), (exponent (fraction rest).2).2) :
            Except Stop (Json × List Char)) = .ok (datum, after)) : datum.isPlain = true := by
    split at read
    · cases read
    · rename_i some
      split at read
      · split at read
        · cases read
        · rename_i short
          cases read
          exact isPlain_int digits (Bool.eq_false_iff.mpr some) short
      · cases read
        simp [isPlain, isNaN_nearest]
  have digits (c : Char) (mem : c ∈ (Decimal.digitRun input).1) : c.isDigit = true :=
    List.all_eq_true.mp List.all_takeWhile c mem
  unfold number at read
  dsimp only at read
  split at read
  · exact finish ['0'] _ (by simp) read
  · exact finish _ _ digits read

/-- Members are set one after the other, so that no name comes twice. -/
theorem isPlain_set {m : Members} {key : String} {datum : Json} (before : (object m).isPlain = true)
    (plain : datum.isPlain = true) : (object (m.set key datum)).isPlain = true := by
  obtain ⟨distinct, each⟩ := isPlain_object.mp before
  refine isPlain_object.mpr ⟨?_, fun pair mem => ?_⟩
  · rw [Ordered.keys_set]
    split
    · exact distinct
    · rename_i new
      refine List.nodup_append.mpr ⟨distinct, by simp, ?_⟩
      rintro known mem _ (_ | _) rfl
      · exact new mem
      · contradiction
  · rcases Ordered.mem_of_mem_set mem with old | rfl
    · exact each pair old
    · exact plain

theorem ok_of_bind {α β : Type} {x : Except Stop α} {f : α → Except Stop β} {b : β} (read : (x >>= f) = .ok b) :
    ∃ a, x = .ok a ∧ f a = .ok b := by
  cases x with
  | error => cases read
  | ok a => exact ⟨a, rfl, read⟩

/-- What pieces of a text read as is plain. -/
structure ReadsPlain (fuel : Nat) : Prop where
  value {input datum after} (read : value fuel input = .ok (datum, after)) : datum.isPlain = true
  items {input found after} (read : items fuel input = .ok (found, after)) : (list found).isPlain = true
  members {before input found after} (held : (object before).isPlain = true)
    (read : members fuel before input = .ok (found, after)) : (object found).isPlain = true

namespace ReadsPlain

variable {fuel : Nat} (plain : ReadsPlain fuel)
include plain

theorem value_succ {input after : List Char} {datum : Json}
    (read : Reader.value (fuel + 1) input = .ok (datum, after)) : datum.isPlain = true := by
  unfold Reader.value at read
  dsimp only at read
  split at read
  · cases read
  · obtain ⟨_, -, made⟩ := ok_of_bind read
    cases made
    rfl
  · split at read
    · cases read
      rfl
    · obtain ⟨_, found, made⟩ := ok_of_bind read
      cases made
      exact plain.items found
  · split at read
    · cases read
      rfl
    · obtain ⟨_, found, made⟩ := ok_of_bind read
      cases made
      exact plain.members rfl found
  · split at read
    · cases read
      rfl
    · exact isPlain_number read
  · split at read
    · exact isPlain_number read
    · repeat' split at read
      all_goals cases read
      all_goals rfl

theorem items_succ {input after : List Char} {found : List Json}
    (read : Reader.items (fuel + 1) input = .ok (found, after)) : (list found).isPlain = true := by
  unfold Reader.items at read
  obtain ⟨⟨item, rest⟩, first, left⟩ := ok_of_bind read
  have one := plain.value first
  dsimp only at left
  split at left
  · cases left
    exact isPlain_list.mpr (by simpa using one)
  · obtain ⟨⟨others, rest⟩, more, made⟩ := ok_of_bind left
    cases made
    refine isPlain_list.mpr fun datum mem => ?_
    rcases List.mem_cons.mp mem with rfl | mem
    · exact one
    · exact isPlain_list.mp (plain.items more) datum mem
  · cases left

theorem members_succ {before found : Members} {input after : List Char} (held : (object before).isPlain = true)
    (read : Reader.members (fuel + 1) before input = .ok (found, after)) : (object found).isPlain = true := by
  unfold Reader.members at read
  split at read
  · obtain ⟨⟨chars, rest⟩, -, left⟩ := ok_of_bind read
    dsimp only at left
    split at left
    · obtain ⟨⟨datum, rest⟩, first, goes⟩ := ok_of_bind left
      have now : (object (before.set (String.ofList chars) datum)).isPlain = true :=
        isPlain_set held (plain.value first)
      dsimp only at goes
      split at goes
      · cases goes
        exact now
      · exact plain.members now goes
      · cases goes
    · cases left
  · cases read

end ReadsPlain

/-- Data are read piece by piece, and each piece is plain. -/
theorem readsPlain (fuel : Nat) : ReadsPlain fuel := by
  induction fuel with
  | zero => constructor <;> intros <;> contradiction
  | succ fuel ih => exact ⟨ih.value_succ, ih.items_succ, ih.members_succ⟩

end Reader

/-- Whatever a text is read as is plain. -/
theorem isPlain_of_read {text : String} {datum : Json} (is : read text = .ok datum) : datum.isPlain = true := by
  unfold read at is
  dsimp only at is
  split at is
  · cases is
  · split at is
    · cases is
    · cases is
    · rename_i found
      split at is
      · cases is
        exact (Reader.readsPlain _).value found
      · cases is

end TriggerFlow.Json
