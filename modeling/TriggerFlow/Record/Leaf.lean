import TriggerFlow.Instant.Reader
import TriggerFlow.Json.Reader

/-!
Readings of single data. Records are read leniently: a number may be written as a text, a truth value
as a number or a word, and a point in time as a number of seconds; a text is never made from anything
else.
-/

/-!
What can be wrong with the data of a record, and readings that report all of it. A reading either
gives a value or every issue found, each with its place in the data.
-/

namespace TriggerFlow

/-- What is wrong with a datum. -/
inductive Complaint where
  | missing
  | textExpected
  | integerExpected | integerUnreadable | integerFromFraction | integerTooLong | notFinite
  | numberExpected | numberUnreadable
  | truthExpected | truthUnreadable
  | objectExpected | listExpected | recordExpected | taggedExpected
  | notAChoice | notALiteral
  | tagMissing | tagUnknown
  | instantExpected
  | notGreater | below | above | tooShort
  | notJson
  deriving DecidableEq, Repr

/-- The name of a complaint in reports. -/
def Complaint.name : Complaint → String
  | .missing => "missing"
  | .textExpected => "string_type"
  | .integerExpected => "int_type"
  | .integerUnreadable => "int_parsing"
  | .integerFromFraction => "int_from_float"
  | .integerTooLong => "int_parsing_size"
  | .notFinite => "finite_number"
  | .numberExpected => "float_type"
  | .numberUnreadable => "float_parsing"
  | .truthExpected => "bool_type"
  | .truthUnreadable => "bool_parsing"
  | .objectExpected => "dict_type"
  | .listExpected => "list_type"
  | .recordExpected => "model_type"
  | .taggedExpected => "model_attributes_type"
  | .notAChoice => "enum"
  | .notALiteral => "literal_error"
  | .tagMissing => "union_tag_not_found"
  | .tagUnknown => "union_tag_invalid"
  | .instantExpected => "datetime"
  | .notGreater => "greater_than"
  | .below => "greater_than_equal"
  | .above => "less_than_equal"
  | .tooShort => "string_too_short"
  | .notJson => "json_invalid"

/-- A complaint and its place: the names and counts that lead to the datum. -/
structure Issue where
  place : List String
  complaint : Complaint
  deriving DecidableEq, Repr

/-- What reading data gives: a value, or everything that is wrong with the data. -/
inductive Reading (α : Type) where
  | value (a : α)
  | issues (found : List Issue)
  deriving Repr

namespace Reading

variable {α β : Type}

/-- Two readings succeed together and report their issues together. -/
def apply : Reading (α → β) → Reading α → Reading β
  | .value f, .value a => .value (f a)
  | .value _, .issues found => .issues found
  | .issues found, .value _ => .issues found
  | .issues first, .issues second => .issues (first ++ second)

instance : Applicative Reading where
  pure := .value
  seq f a := apply f (a ())

/-- One complaint about the datum at hand. -/
def complain (complaint : Complaint) : Reading α := .issues [⟨[], complaint⟩]

/-- The reading of a part, seen from the whole. -/
def under (step : String) : Reading α → Reading α
  | .value a => .value a
  | .issues found => .issues (found.map fun issue => { issue with place := step :: issue.place })

/-- The value, if there are no issues. -/
def value? : Reading α → Option α
  | .value a => some a
  | .issues _ => none

theorem map_eq_value {f : α → β} {reading : Reading α} {b : β} (value : f <$> reading = .value b) :
    ∃ a, reading = .value a ∧ b = f a := by
  cases reading <;> cases value
  exact ⟨_, rfl, rfl⟩

theorem seq_eq_value {f : Reading (α → β)} {reading : Reading α} {b : β} (value : f <*> reading = .value b) :
    ∃ g a, f = .value g ∧ reading = .value a ∧ b = g a := by
  cases f <;> cases reading <;> cases value
  exact ⟨_, _, rfl, rfl, rfl⟩

theorem under_eq_value {step : String} {reading : Reading α} {a : α} (value : reading.under step = .value a) :
    reading = .value a := by
  cases reading <;> cases value
  rfl

end Reading

end TriggerFlow

namespace TriggerFlow.Record

variable {α : Type}

/-- A text. -/
def text : Json → Reading String
  | .text s => .value s
  | _ => .complain .textExpected

/-- A text of at least one character. -/
def nonemptyText : Json → Reading String
  | .text s => if s = "" then .complain .tooShort else .value s
  | _ => .complain .textExpected

/-- Drops the underscores of a number, which may stand singly inside it. -/
def dropUnderscores? (digits : List Char) : Option (List Char) :=
  let rec alone : List Char → Bool
    | '_' :: '_' :: _ => false
    | _ :: rest => alone rest
    | [] => true
  if digits.head? = some '_' ∨ digits.getLast? = some '_' ∨ !alone digits then none
  else some (digits.filter (· ≠ '_'))

/-- Cuts off a fraction of zeros. -/
def dropZeroFraction? (digits : List Char) : Option (List Char) :=
  match Text.cutFirst? '.' digits with
  | none => some digits
  | some (whole, fraction) => if fraction.all (· = '0') then some whole else none

/-- The integer a text writes: a sign, digits with single underscores, and perhaps a fraction of
zeros. -/
def integerOfText (s : String) : Reading Int :=
  if Json.maxDigits < s.length then .complain .integerTooLong
  else
    let (negative, digits) := Decimal.signed (Text.trimWhiteSpace s.toList)
    match (dropZeroFraction? digits).bind dropUnderscores? with
    | some digits =>
      if digits.isEmpty || !digits.all Char.isDigit then .complain .integerUnreadable
      else .value (if negative then -(Decimal.ofDigits digits : Int) else Decimal.ofDigits digits)
    | none => .complain .integerUnreadable

/-- The integer a number is. -/
def integerOfFloat (x : Binary64) : Reading Int :=
  if !x.isFinite then .complain .notFinite
  else match x.toInt? with
    | none => .complain .integerFromFraction
    | some n =>
      if n.natAbs < twoTo 63 then .value n else .complain .integerTooLong

/-- An integer. -/
def integer : Json → Reading Int
  | .bool b => .value (if b then 1 else 0)
  | .int n => .value n
  | .float x => integerOfFloat x
  | .text s => integerOfText s
  | _ => .complain .integerExpected

/-- The number a text writes. -/
def numberOfText (s : String) : Reading Binary64 :=
  match (dropUnderscores? (Text.trimWhiteSpace s.toList)).bind Decimal.read? with
  | some x => .value x
  | none => .complain .numberUnreadable

/-- A number. -/
def number : Json → Reading Binary64
  | .bool b => .value (.ofIntRounded (if b then 1 else 0))
  | .int n =>
    match Binary64.ofInt? n with
    | some x => .value x
    | none => .complain .numberExpected
  | .float x => .value x
  | .text s => numberOfText s
  | _ => .complain .numberExpected

/-- A number above zero. -/
def positive (datum : Json) : Reading Binary64 :=
  match number datum with
  | .value x =>
    if x.compare? (.zero false) = some .gt then .value x else .complain .notGreater
  | other => other

/-- The truth value that a word names, in any case. -/
def truthOfWord? (word : String) : Option Bool :=
  let word := Text.lowerAscii word
  if ["1", "true", "t", "yes", "y", "on"].contains word then some true
  else if ["0", "false", "f", "no", "n", "off"].contains word then some false
  else none

/-- A truth value. -/
def truth : Json → Reading Bool
  | .bool b => .value b
  | .int n => if n = 0 then .value false else if n = 1 then .value true else .complain .truthUnreadable
  | .float x =>
    match x.toInt? with
    | some 0 => .value false
    | some 1 => .value true
    | some _ => .complain .truthUnreadable
    | none => .complain .truthExpected
  | .text s =>
    match truthOfWord? s with
    | some b => .value b
    | none => .complain .truthUnreadable
  | _ => .complain .truthExpected

/-- A point in time. -/
def instant (datum : Json) : Reading Instant :=
  let found := match datum with
    | .text s => Instant.read? s
    | .int n => Instant.ofInt? n
    | .float x => Instant.ofFloat? x
    | _ => none
  match found with
  | some t => .value t
  | none => .complain .instantExpected

/-- Named data of any kind. -/
def members : Json → Reading Members
  | .object m => .value m
  | _ => .complain .objectExpected

/-- One of the named values. -/
def choice (complaint : Complaint) (named : String → Option α) : Json → Reading α
  | .text s =>
    match named s with
    | some a => .value a
    | none => .complain complaint
  | _ => .complain complaint

/-- A datum that may be null. -/
def nullable (read : Json → Reading α) : Json → Reading (Option α)
  | .null => .value none
  | datum => some <$> read datum

/-- The items of a list, counted from a place. -/
def itemsFrom (read : Json → Reading α) : Nat → List Json → Reading (List α)
  | _, [] => .value []
  | place, datum :: rest =>
    List.cons <$> (read datum).under (toString place) <*> itemsFrom read (place + 1) rest

/-- A list. -/
def items (read : Json → Reading α) : Json → Reading (List α)
  | .list data => itemsFrom read 0 data
  | _ => .complain .listExpected

/-- A member that must be there. -/
def required (m : Members) (key : String) (read : Json → Reading α) : Reading α :=
  match m.get? key with
  | some datum => (read datum).under key
  | none => (Reading.complain .missing).under key

/-- A member that has a default. -/
def optional (m : Members) (key : String) (fallback : α) (read : Json → Reading α) : Reading α :=
  match m.get? key with
  | some datum => (read datum).under key
  | none => .value fallback

/-- A record; members that its reader does not ask for are ignored. -/
def ofObject (read : Members → Reading α) : Json → Reading α
  | .object m => read m
  | _ => .complain .recordExpected

end TriggerFlow.Record
