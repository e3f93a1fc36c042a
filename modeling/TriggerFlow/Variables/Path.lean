import TriggerFlow.Json.Printer

/-!
Dotted paths into data. Each part names a member of an object or counts an item of a list; a path that
leads nowhere has the value null.
-/

namespace TriggerFlow.Path

/-- Why a path cannot be followed, or what it leads to not be written. -/
inductive Fault where
  /-- A part looks like an index and is none. -/
  | notAnIndex (part : String)
  /-- An index has more digits than are read. -/
  | tooManyDigits (count : Nat)
  /-- An integer has more digits than are written. -/
  | tooLong
  deriving DecidableEq, Repr

/-- The text of a fault. A part is quoted in at most 200 characters. -/
def Fault.message : Fault → String
  | .notAnIndex part =>
    "invalid literal for int() with base 10: " ++ String.ofList ((Text.quoted part).toList.take 200)
  | .tooManyDigits count => (Json.Fault.tooManyDigits count).message
  | .tooLong => Json.notWritable

/-- A part of digits, after any number of minus signs, is meant as an index. -/
def looksLikeIndex (part : String) : Bool :=
  let digits := part.toList.dropWhile (· = '-')
  !digits.isEmpty && digits.all Text.isAnyDigit

/-- The number that decimal digits of any script stand for. -/
def digitsValue (digits : List Char) : Nat := Decimal.ofDigits (Decimal.plainDigits digits)

/-- The index that a part stands for: decimal digits, not too many, after one minus sign at most. The
digits are counted before what follows them is looked at. -/
def index? (part : String) : Except Fault Int :=
  let (negative, digits) := Decimal.signed part.toList
  let run := digits.takeWhile fun c => (Text.decimalDigit? c).isSome
  if Json.maxDigits < run.length then .error (.tooManyDigits run.length)
  else if run = [] ∨ run ≠ digits then .error (.notAnIndex part)
  else .ok (if negative then -(digitsValue digits : Int) else digitsValue digits)

/-- The item at an index, counted from the end if it is negative; null if there is none. -/
def itemAt (items : List Json) (index : Int) : Json :=
  let place := if index < 0 then index + items.length else index
  if place < 0 then .null else (items[place.toNat]?).getD .null

/-- One step of a path. -/
def step (datum : Json) (part : String) : Except Fault Json :=
  match datum with
  | .object members => .ok (Json.member members part)
  | .list items => if looksLikeIndex part then (index? part).map (itemAt items) else .ok .null
  | _ => .ok .null

/-- Follows the parts of a path; from null there is no way on. -/
def follow (datum : Json) : List String → Except Fault Json
  | [] => .ok datum
  | part :: parts =>
    match step datum part with
    | .error fault => .error fault
    | .ok .null => .ok .null
    | .ok next => follow next parts

/-- The parts of a path, without the blanks around them. -/
def parts (path : String) : List String :=
  (Text.cut '.' path.toList).map fun part => String.ofList (Text.trim part)

/-- The datum at a path. -/
def resolve (context : Members) (path : String) : Except Fault Json :=
  follow (.object context) (parts path)

end TriggerFlow.Path
