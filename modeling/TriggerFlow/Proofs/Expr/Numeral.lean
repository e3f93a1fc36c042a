import TriggerFlow.Expr.Token

/-!
# Numerals

How numbers are written in an expression: an integer in base ten or with the mark of another base, or a decimal with a
point or an exponent. Digits may be joined by underscores. The lexer takes a numeral as a whole, whatever follows it, if
only it is nothing that a name could go on with.
-/

namespace TriggerFlow.Expr

namespace Lexer

/-! ### Digits -/

/-- How digits are spelled: at least one, with single underscores between some of them. -/
inductive Grouped (isDigit : Char → Bool) : List Char → List Char → Prop
  | last {c : Char} (digit : isDigit c = true) : Grouped isDigit [c] [c]
  | next {c : Char} {spelling digits : List Char} (digit : isDigit c = true) (others : Grouped isDigit spelling digits) :
    Grouped isDigit (c :: spelling) (c :: digits)
  | joined {c : Char} {spelling digits : List Char} (digit : isDigit c = true)
    (others : Grouped isDigit spelling digits) : Grouped isDigit (c :: '_' :: spelling) (c :: digits)

/-- The digits of a kind, as they are spelled and as they count. -/
structure Digits (isDigit : Char → Bool) where
  spelling : List Char
  digits : List Char
  grouped : Grouped isDigit spelling digits

/-- Nothing in front that a name could go on with. -/
def Apart (rest : List Char) : Prop := ∀ c ∈ rest.head?, isNameChar c = false

variable {isDigit : Char → Bool} {c : Char} {rest : List Char}

theorem isAlpha_iff :
    c.isAlpha = true ↔ (65 ≤ c.toNat ∧ c.toNat ≤ 90) ∨ (97 ≤ c.toNat ∧ c.toNat ≤ 122) := by
  have val : c.val.toNat = c.toNat := rfl
  have letters : c.isAlpha = (decide (c.val ≥ 65 ∧ c.val ≤ 90) || (decide (c.val ≥ 97) && decide (c.val ≤ 122))) := rfl
  simp only [letters, UInt32.le_iff_toNat_le, ge_iff_le, Bool.or_eq_true, Bool.and_eq_true, decide_eq_true_eq, val,
    UInt32.reduceToNat]

theorem isDigit_iff : c.isDigit = true ↔ 48 ≤ c.toNat ∧ c.toNat ≤ 57 := by
  have val : c.val.toNat = c.toNat := rfl
  have digits : c.isDigit = (decide (c.val ≥ 48) && decide (c.val ≤ 57)) := rfl
  simp only [digits, UInt32.le_iff_toNat_le, ge_iff_le, Bool.and_eq_true, decide_eq_true_eq, val, UInt32.reduceToNat]

theorem isAlphanum_iff : c.isAlphanum = true ↔
    (48 ≤ c.toNat ∧ c.toNat ≤ 57) ∨ (65 ≤ c.toNat ∧ c.toNat ≤ 90) ∨ (97 ≤ c.toNat ∧ c.toNat ≤ 122) := by
  rw [Char.isAlphanum, Bool.or_eq_true, isAlpha_iff, isDigit_iff, or_comm]

theorem not_isDigit_of_isAlpha (letter : c.isAlpha = true) : c.isDigit = false := by
  rw [Bool.eq_false_iff, ne_eq, isDigit_iff]
  rw [isAlpha_iff] at letter
  omega

theorem isNameChar_of_isAlphanum (named : c.isAlphanum = true) : isNameChar c = true := by
  rw [isNameChar, named]
  rfl

theorem isAlphanum_of_isDigit (digit : c.isDigit = true) : c.isAlphanum = true := by
  rw [Char.isAlphanum, digit, Bool.or_true]

/-- What a name could not go on with, no digits go on with. -/
theorem Apart.stops (apart : Apart rest) (named : ∀ c, isDigit c = true → c.isAlphanum = true) :
    ∀ c ∈ rest.head?, isDigit c = false ∧ c ≠ '_' := by
  intro c front
  have other := apart c front
  constructor
  · exact Bool.eq_false_iff.mpr fun digit => Bool.false_ne_true (other ▸ isNameChar_of_isAlphanum (named c digit))
  · rintro rfl
    cases other

theorem digitGroups?_digit (digit : isDigit c = true) (plain : isDigit '_' = false) :
    digitGroups? isDigit (c :: rest) = (digitGroups? isDigit rest).map fun parts => (c :: parts.1, parts.2) := by
  have ne : c ≠ '_' := by
    rintro rfl
    simp [plain] at digit
  rw [digitGroups?, if_pos digit]
  · rintro d others rfl -
    exact ne rfl
  · rintro rfl -
    exact ne rfl

/-- An underscore between two digits counts for nothing. -/
theorem digitGroups?_underscore (digit : isDigit c = true) (plain : isDigit '_' = false) :
    digitGroups? isDigit ('_' :: c :: rest) = digitGroups? isDigit (c :: rest) := by
  rw [digitGroups?_digit digit plain, digitGroups?, if_pos digit]

theorem digitGroups?_stop (stops : ∀ c ∈ rest.head?, isDigit c = false ∧ c ≠ '_') :
    digitGroups? isDigit rest = some ([], rest) := by
  cases rest with
  | nil => rfl
  | cons c rest =>
    obtain ⟨none, ne⟩ := stops c rfl
    rw [digitGroups?, if_neg (by simp [none])]
    · rintro d others rfl -
      exact ne rfl
    · rintro rfl -
      exact ne rfl

namespace Grouped

variable {spelling digits : List Char}

theorem eq_cons (grouped : Grouped isDigit spelling digits) :
    ∃ c others, spelling = c :: others ∧ isDigit c = true ∧ ∀ d ∈ others, isDigit d = true ∨ d = '_' := by
  induction grouped with
  | last digit => exact ⟨_, [], rfl, digit, nofun⟩
  | next digit _ ih =>
    obtain ⟨c, others, rfl, first, more⟩ := ih
    exact ⟨_, _, rfl, digit, List.forall_mem_cons.mpr ⟨.inl first, more⟩⟩
  | joined digit _ ih =>
    obtain ⟨c, others, rfl, first, more⟩ := ih
    exact ⟨_, _, rfl, digit, List.forall_mem_cons.mpr ⟨.inr rfl, List.forall_mem_cons.mpr ⟨.inl first, more⟩⟩⟩

theorem digits_ne_nil (grouped : Grouped isDigit spelling digits) : digits ≠ [] := by
  cases grouped <;> exact List.cons_ne_nil _ _

theorem digitGroups? (grouped : Grouped isDigit spelling digits) (plain : isDigit '_' = false)
    (stops : ∀ c ∈ rest.head?, isDigit c = false ∧ c ≠ '_') :
    digitGroups? isDigit (spelling ++ rest) = some (digits, rest) := by
  induction grouped with
  | last digit => rw [List.cons_append, digitGroups?_digit digit plain, List.nil_append, digitGroups?_stop stops]; rfl
  | next digit _ ih => rw [List.cons_append, digitGroups?_digit digit plain, ih]; rfl
  | joined digit others ih =>
    obtain ⟨d, more, rfl, first, -⟩ := others.eq_cons
    rw [List.cons_append] at ih
    rw [List.cons_append, List.cons_append, List.cons_append, digitGroups?_digit digit plain,
      digitGroups?_underscore first plain, ih]
    rfl

end Grouped

end Lexer

open Lexer

/-! ### What is written -/

/-- A base other than ten. -/
inductive Base where
  | sixteen | eight | two
  deriving DecidableEq, Repr

def Base.size : Base → Nat
  | .sixteen => 16 | .eight => 8 | .two => 2

/-- The letter of a base, in lower or in upper case. -/
def Base.mark : Base → Bool → Char
  | .sixteen, upper => if upper then 'X' else 'x'
  | .eight, upper => if upper then 'O' else 'o'
  | .two, upper => if upper then 'B' else 'b'

def Base.isDigit : Base → Char → Bool
  | .sixteen, d => (Text.hexDigit? d).isSome
  | .eight, d => '0' ≤ d && d ≤ '7'
  | .two, d => d = '0' || d = '1'

/-- An exponent: the case of its letter, its sign if there is one, and its digits. -/
structure Exponent where
  upper : Bool
  sign : Option Bool
  power : Digits Char.isDigit

def Exponent.spelling (e : Exponent) : List Char :=
  (if e.upper then 'E' else 'e') ::
    ((match e.sign with
      | some negative => [if negative then '-' else '+']
      | none => []) ++ e.power.spelling)

def Exponent.value (e : Exponent) : Int :=
  if e.sign = some true then -(Decimal.ofDigits e.power.digits : Int) else Decimal.ofDigits e.power.digits

/-- Digits that may be left out. -/
abbrev Part := Option (Digits Char.isDigit)

def Part.spelling (part : Part) : List Char := (part.map Digits.spelling).getD []

def Part.digits (part : Part) : List Char := (part.map Digits.digits).getD []

/-- A number in base ten: digits, perhaps a point with digits after it, and perhaps an exponent. There are digits before
or after the point, and an integer has no leading zero. -/
structure DecimalForm where
  whole : Part
  point : Option Part
  exponent : Option Exponent
  some_ : whole ≠ none ∨ ∃ digits, point = some (some digits)
  plain : point = none → exponent = none → whole.digits.head? = some '0' → whole.digits = ['0']

def DecimalForm.spelling (d : DecimalForm) : List Char :=
  d.whole.spelling ++ ((d.point.map fun part => '.' :: part.spelling).getD [] ++
    (d.exponent.map Exponent.spelling).getD [])

/-- The integer that is written, or the number nearest to the decimal. -/
def DecimalForm.value (d : DecimalForm) : Constant :=
  let fraction := (d.point.map Part.digits).getD []
  if d.point.isSome || d.exponent.isSome then
    .float (Decimal.nearest false (Decimal.ofDigits (d.whole.digits ++ fraction))
      ((d.exponent.map Exponent.value).getD 0 - fraction.length))
  else .int (Decimal.ofDigits d.whole.digits)

/-- A number as it is written. -/
inductive Numeral where
  | inBase (base : Base) (upper : Bool) (digits : Digits base.isDigit)
  | decimal (d : DecimalForm)

def Numeral.chars : Numeral → List Char
  | .inBase base upper digits => '0' :: base.mark upper :: digits.spelling
  | .decimal d => d.spelling

def Numeral.value : Numeral → Constant
  | .inBase base _ digits =>
    .int (digits.digits.foldl (fun n c => base.size * n + (Text.hexDigit? c).getD 0) 0 : Nat)
  | .decimal d => d.value

/-- A character of names and numbers. -/
def Plain (c : Char) : Prop := c.isAlphanum = true ∨ c = '_' ∨ c = '.' ∨ c = '+' ∨ c = '-'

instance (c : Char) : Decidable (Plain c) := inferInstanceAs (Decidable (_ ∨ _))

theorem Plain.ne {c d : Char} (plain : Plain c) (other : ¬ Plain d) : c ≠ d := fun same => other (same ▸ plain)

theorem Plain.graphic {c : Char} (plain : Plain c) : 32 < c.toNat ∧ c.toNat < 128 := by
  obtain letter | rfl | rfl | rfl | rfl := plain
  · rw [Lexer.isAlphanum_iff] at letter
    omega
  all_goals decide

/-! ### What is read -/

namespace Lexer

variable {rest : List Char}

theorem isAlphanum_of_base {base : Base} {c : Char} (digit : base.isDigit c = true) : c.isAlphanum = true := by
  rw [isAlphanum_iff]
  cases base with
  | sixteen =>
    rw [Base.isDigit, Text.hexDigit?] at digit
    split at digit
    · rename_i range
      exact .inl range
    split at digit
    · rename_i range
      have low : 97 ≤ c.toNat := range.1
      have high : c.toNat ≤ 102 := range.2
      omega
    split at digit
    · rename_i range
      have low : 65 ≤ c.toNat := range.1
      have high : c.toNat ≤ 70 := range.2
      omega
    · cases digit
  | eight =>
    obtain ⟨low, high⟩ := Bool.and_eq_true_iff.mp digit
    have low : 48 ≤ c.toNat := of_decide_eq_true low
    have high : c.toNat ≤ 55 := of_decide_eq_true high
    omega
  | two =>
    obtain rfl | rfl := (by simpa [Base.isDigit] using digit : c = '0' ∨ c = '1') <;> decide

theorem plain_of_grouped {isDigit : Char → Bool} (named : ∀ c, isDigit c = true → c.isAlphanum = true)
    {spelling digits : List Char} (grouped : Grouped isDigit spelling digits) : ∀ c ∈ spelling, Plain c := by
  obtain ⟨c, others, rfl, digit, more⟩ := grouped.eq_cons
  refine List.forall_mem_cons.mpr ⟨.inl (named c digit), fun d mem => ?_⟩
  exact (more d mem).imp (named d) .inl

theorem plain_of_part (part : Part) : ∀ c ∈ part.spelling, Plain c := by
  cases part with
  | none => exact nofun
  | some part => exact plain_of_grouped (fun _ => isAlphanum_of_isDigit) part.grouped

/-- A numeral is written with letters, digits, underscores, points and signs. -/
theorem plain_of_numeral (numeral : Numeral) : ∀ c ∈ numeral.chars, Plain c := by
  cases numeral with
  | inBase base upper digits =>
    refine List.forall_mem_cons.mpr ⟨by decide, List.forall_mem_cons.mpr ⟨?_, ?_⟩⟩
    · cases base <;> cases upper <;> decide
    · exact plain_of_grouped (fun _ => isAlphanum_of_base) digits.grouped
  | decimal d =>
    refine List.forall_mem_append.mpr ⟨plain_of_part d.whole, List.forall_mem_append.mpr ⟨?_, ?_⟩⟩
    · cases d.point with
      | none => exact nofun
      | some part => exact List.forall_mem_cons.mpr ⟨by decide, plain_of_part part⟩
    · cases d.exponent with
      | none => exact nofun
      | some e =>
        refine List.forall_mem_cons.mpr ⟨by cases e.upper <;> decide, List.forall_mem_append.mpr ⟨?_, ?_⟩⟩
        · rcases e.sign with - | - | - <;> simp [Plain]
        · exact plain_of_grouped (fun _ => isAlphanum_of_isDigit) e.power.grouped

theorem numberEnds_of_apart (apart : Apart rest) : numberEnds rest = true := by
  cases rest with
  | nil => rfl
  | cons c rest => simp [numberEnds, apart c rfl]

theorem fraction?_part (part : Part) (stops : ∀ c ∈ rest.head?, c.isDigit = false ∧ c ≠ '_') :
    fraction? (part.spelling ++ rest) = some (part.digits, rest) := by
  cases part with
  | none =>
    rw [fraction?, if_neg]
    · rfl
    · cases rest with
      | nil => exact Bool.false_ne_true
      | cons c rest => simp [Part.spelling, (stops c rfl).1]
  | some part =>
    obtain ⟨c, others, is, digit, -⟩ := part.grouped.eq_cons
    rw [fraction?, if_pos]
    · exact part.grouped.digitGroups? rfl stops
    · simp [Part.spelling, is, digit]

theorem exponent?_apart (apart : Apart rest) : exponent? rest = some (none, rest) := by
  cases rest with
  | nil => rfl
  | cons c rest =>
    have none : ¬ (c = 'e' ∨ c = 'E') := by
      rintro (rfl | rfl) <;> exact absurd (apart _ rfl) (by decide)
    rw [exponent?, if_neg none]

theorem signed_sign (negative : Bool) :
    Decimal.signed ((if negative then '-' else '+') :: rest) = (negative, rest) := by
  cases negative <;> rfl

theorem signed_digit {c : Char} (digit : c.isDigit = true) : Decimal.signed (c :: rest) = (false, c :: rest) := by
  unfold Decimal.signed
  split
  · rename_i is
    cases is
    cases digit
  · rename_i is
    cases is
    cases digit
  · rfl

theorem exponent?_exponent (e : Exponent) (apart : Apart rest) :
    exponent? (e.spelling ++ rest) = some (some e.value, rest) := by
  obtain ⟨c, others, is, digit, -⟩ := e.power.grouped.eq_cons
  have read : digitGroups? Char.isDigit (c :: (others ++ rest)) = some (e.power.digits, rest) := by
    rw [← List.cons_append, ← is]
    exact e.power.grouped.digitGroups? rfl (apart.stops fun _ => isAlphanum_of_isDigit)
  have mark : (if e.upper then 'E' else 'e') = 'e' ∨ (if e.upper then 'E' else 'e') = 'E' := by
    cases e.upper <;> decide
  rw [Exponent.spelling, is, Exponent.value, List.cons_append, exponent?, if_pos mark]
  rcases sign : e.sign with - | negative
  · simp only [List.nil_append, List.cons_append, signed_digit digit, List.head?_cons, Option.any_some, digit, if_true,
      read, Option.bind_eq_bind, Option.bind_some]
    rfl
  · simp only [List.cons_append, List.nil_append, signed_sign, List.head?_cons, Option.any_some, digit, if_true, read,
      Option.bind_eq_bind, Option.bind_some, Option.some.injEq]

theorem finish_apart (pointed powered : Bool) {whole : List Char} (number : Binary64) (apart : Apart rest)
    (plain : pointed = false → powered = false → whole.head? = some '0' → whole = ['0']) :
    decimal?.finish pointed powered whole number rest =
      some (if pointed || powered then .float number else .int (Decimal.ofDigits whole), rest) := by
  rw [decimal?.finish, numberEnds_of_apart apart]
  cases pointed with
  | true => rfl
  | false =>
    cases powered with
    | true => rfl
    | false =>
      have leads : ¬ ((decide (whole.head? = some '0') && whole.any (decide <| · ≠ '0')) = true) := by
        intro both
        obtain ⟨zero, others⟩ := Bool.and_eq_true_iff.mp both
        rw [plain rfl rfl (of_decide_eq_true zero)] at others
        cases others
      simp only [Bool.not_true, Bool.false_eq_true, if_false, Bool.or_false, if_neg leads]

/-- What follows the digits of a decimal. -/
theorem exponent?_tail (exponent : Option Exponent) (apart : Apart rest) (point : rest.head? ≠ some '.') :
    exponent? ((exponent.map Exponent.spelling).getD [] ++ rest) = some (exponent.map Exponent.value, rest) ∧
      ∀ c ∈ ((exponent.map Exponent.spelling).getD [] ++ rest).head?, (c.isDigit = false ∧ c ≠ '_') ∧ c ≠ '.' := by
  cases exponent with
  | none =>
    refine ⟨exponent?_apart apart, fun c front => ⟨apart.stops (fun _ => isAlphanum_of_isDigit) c front, ?_⟩⟩
    rintro rfl
    exact point front
  | some e =>
    refine ⟨exponent?_exponent e apart, fun c front => ?_⟩
    have is : (if e.upper then 'E' else 'e') = c := Option.some.inj front
    subst is
    cases e.upper <;> decide

theorem decimal?_decimal (d : DecimalForm) (apart : Apart rest) (point : rest.head? ≠ some '.') :
    decimal? (d.spelling ++ rest) = some (d.value, rest) := by
  obtain ⟨powers, stops⟩ := exponent?_tail d.exponent apart point
  -- the letter of an imaginary number is one that a name could go on with
  have real (c : Char) (front : c ∈ rest.head?) : ¬ (c = 'j' ∨ c = 'J') := by
    rintro (rfl | rfl) <;> exact absurd (apart _ front) (by decide)
  have finished (pointed : Bool) (number : Binary64) (is : pointed = d.point.isSome) :
      decimal?.finish pointed (d.exponent.map Exponent.value).isSome d.whole.digits number rest =
        some (if pointed || (d.exponent.map Exponent.value).isSome then .float number
          else .int (Decimal.ofDigits d.whole.digits), rest) :=
    finish_apart pointed (d.exponent.map Exponent.value).isSome number apart fun noPoint noPower =>
      d.plain (by simpa [is] using noPoint) (by simpa using noPower)
  rw [DecimalForm.spelling, List.append_assoc, List.append_assoc, decimal?, DecimalForm.value]
  generalize tail : (d.exponent.map Exponent.spelling).getD [] ++ rest = after at powers stops
  rcases pointed : d.point with - | part
  · have before := fraction?_part d.whole fun c front => (stops c front).1
    simp only [Option.map_none, Option.getD_none, List.nil_append, before, Option.bind_eq_bind, Option.bind_some]
    split
    · exact absurd rfl (stops _ rfl).2
    · simp only [powers, Option.bind_some]
      have done := finished false (Decimal.nearest false (Decimal.ofDigits (d.whole.digits ++ []))
        ((d.exponent.map Exponent.value).getD 0 - ([] : List Char).length)) (by rw [pointed]; rfl)
      refine Eq.trans ?_ (done.trans (by simp))
      cases rest with
      | nil => rfl
      | cons c others => exact if_neg (real c rfl)
  · have before : fraction? (d.whole.spelling ++ '.' :: (part.spelling ++ after)) =
        some (d.whole.digits, '.' :: (part.spelling ++ after)) := fraction?_part d.whole (by rintro c ⟨⟩; decide)
    have behind := fraction?_part part fun c front => (stops c front).1
    simp only [Option.map_some, Option.getD_some, List.cons_append, before, behind, powers, Option.bind_eq_bind,
      Option.bind_some]
    have done := finished true (Decimal.nearest false (Decimal.ofDigits (d.whole.digits ++ part.digits))
      ((d.exponent.map Exponent.value).getD 0 - part.digits.length)) (by rw [pointed]; rfl)
    refine Eq.trans ?_ (done.trans (by simp))
    cases rest with
    | nil => rfl
    | cons c others => exact if_neg (real c rfl)

/-- After a zero in front of a decimal stands no letter of a base. -/
theorem second_of_decimal {d : DecimalForm} (apart : Apart rest) {c : Char} {more : List Char}
    (is : d.spelling ++ rest = '0' :: c :: more) :
    (c.isDigit = true ∨ c = '_') ∨ c = '.' ∨ (c = 'e' ∨ c = 'E') ∨ isNameChar c = false := by
  rw [DecimalForm.spelling, List.append_assoc] at is
  rcases whole : d.whole with - | digits
  · obtain ⟨digits, point⟩ := d.some_.resolve_left fun some => some whole
    rw [whole, point] at is
    cases is
  obtain ⟨first, others, spelled, -, inside⟩ := digits.grouped.eq_cons
  rw [whole, Part.spelling, Option.map_some, Option.getD_some, spelled, List.cons_append, List.cons.injEq] at is
  rcases others with - | ⟨next, others⟩
  · refine .inr ?_
    rcases point : d.point with - | part
    · rw [point] at is
      rcases exponent : d.exponent with - | e
      · rw [exponent] at is
        exact .inr (.inr (apart c (by rw [show rest = c :: more from is.2]; rfl)))
      · rw [exponent] at is
        have mark : (if e.upper then 'E' else 'e') = c := (List.cons.inj is.2).1
        exact .inr (.inl (mark ▸ by cases e.upper <;> decide))
    · rw [point] at is
      exact .inl (List.cons.inj is.2).1.symm
  · have same : next = c := (List.cons.inj is.2).1
    exact .inl (same ▸ inside next List.mem_cons_self)

theorem number?_decimal (d : DecimalForm) (apart : Apart rest) (point : rest.head? ≠ some '.') :
    number? (d.spelling ++ rest) = some (d.value, rest) := by
  unfold number?
  split
  · rename_i c more is
    have second := second_of_decimal apart is
    have plain (mark : Char) (is : mark = 'x' ∨ mark = 'X' ∨ mark = 'o' ∨ mark = 'O' ∨ mark = 'b' ∨ mark = 'B') :
        c ≠ mark := by
      rintro rfl
      obtain rfl | rfl | rfl | rfl | rfl | rfl := is <;> exact absurd second (by decide)
    simpa [plain] using decimal?_decimal d apart point
  · exact decimal?_decimal d apart point

theorem number?_numeral (numeral : Numeral) (apart : Apart rest) (point : rest.head? ≠ some '.') :
    number? (numeral.chars ++ rest) = some (numeral.value, rest) := by
  cases numeral with
  | decimal d => exact number?_decimal d apart point
  | inBase base upper digits =>
    have based (plain : base.isDigit '_' = false) (named : ∀ c, base.isDigit c = true → c.isAlphanum = true) :
        based? base.size base.isDigit (digits.spelling ++ rest) =
          some ((Numeral.inBase base upper digits).value, rest) := by
      rw [based?, digits.grouped.digitGroups? plain (apart.stops named), Option.bind_eq_bind, Option.bind_some]
      simp [digits.grouped.digits_ne_nil, numberEnds_of_apart apart, Numeral.value]
    have marked := based (by cases base <;> decide) fun _ => isAlphanum_of_base
    cases base <;> cases upper <;> exact marked

end Lexer

end TriggerFlow.Expr
