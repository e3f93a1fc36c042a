import TriggerFlow.Instant
import TriggerFlow.Number.Decimal

/-!
Reading points in time: a date and a time of day with an optional offset, a date alone (its midnight),
or a number of seconds since 1970. Numbers beyond twenty thousand million count milliseconds.
-/

namespace TriggerFlow.Instant

/-- Exactly so many ASCII digits in front. -/
def digits? (count : Nat) (text : List Char) : Option (Nat × List Char) :=
  let front := text.take count
  if front.length = count && front.all Char.isDigit then some (Decimal.ofDigits front, text.drop count)
  else none

/-- One character of a set in front. -/
def oneOf? (set : List Char) : List Char → Option (List Char)
  | c :: rest => if set.contains c then some rest else none
  | [] => none

/-- A date in front. -/
def date? (text : List Char) : Option (Date × List Char) := do
  let (year, rest) ← digits? 4 text
  let rest ← oneOf? ['-'] rest
  let (month, rest) ← digits? 2 rest
  let rest ← oneOf? ['-'] rest
  let (day, rest) ← digits? 2 rest
  let date : Date := ⟨year, month, day⟩
  if date.isValid then some (date, rest) else none

/-- A fraction of a second in microseconds; further digits are cut off. -/
def fraction? (text : List Char) : Option (Nat × List Char) :=
  match oneOf? ['.', ','] text with
  | none => some (0, text)
  | some rest =>
    let (digits, after) := Decimal.digitRun rest
    if digits.isEmpty then none
    else some (Decimal.ofDigits ((digits ++ List.replicate 6 '0').take 6), after)

/-- The offset that ends the text; absent if nothing is left. -/
def offset? (text : List Char) : Option (Option Int) :=
  match text with
  | [] => some none
  | ['Z'] => some (some 0)
  | ['z'] => some (some 0)
  | c :: rest => do
    let sign : Int ← if c = '+' then some 1
      else if c = '-' ∨ c.toNat = 0x2212 then some (-1) else none
    let (hours, rest) ← digits? 2 rest
    let rest := (oneOf? [':'] rest).getD rest
    let (minutes, rest) ← digits? 2 rest
    if rest.isEmpty && hours ≤ 23 && minutes ≤ 59 then
      some (some (sign * ((hours * 3600 + minutes * 60 : Nat) : Int)))
    else none

/-- Seconds of a time of day, if a colon stands in front. -/
def secondsPart? (text : List Char) : Option (Nat × Nat × List Char) :=
  match oneOf? [':'] text with
  | none => some (0, 0, text)
  | some rest => do
    let (seconds, rest) ← digits? 2 rest
    let (micros, rest) ← fraction? rest
    if seconds ≤ 59 then some (seconds, micros, rest) else none

/-- A date with a time of day, or a date alone. -/
def ofDateText? (text : List Char) : Option Instant := do
  let (date, rest) ← date? text
  if rest.isEmpty then some (ofParts date 0 0 0 0 none)
  else
    let rest ← oneOf? ['T', 't', ' ', '_'] rest
    let (hour, rest) ← digits? 2 rest
    let rest ← oneOf? [':'] rest
    let (minute, rest) ← digits? 2 rest
    let (seconds, micros, rest) ← secondsPart? rest
    let offset ← offset? rest
    if hour ≤ 23 && minute ≤ 59 then some (ofParts date hour minute seconds micros offset) else none

/-- The wall reading of the start of 1970. -/
def epoch : Int := ((Date.mk 1970 1 1).toDays : Int) * dayLength

/-- The universal time so many microseconds after the start of 1970, from the year 1600 on. -/
def ofEpoch? (micros : Int) : Option Instant :=
  let wall := epoch + micros
  if ((Date.mk 1600 1 1).toDays : Int) * dayLength ≤ wall && wall < wallEnd then some ⟨wall, some 0⟩
  else none

/-- A number above this counts milliseconds. -/
def millisecondsAbove : Int := 20000000000

/-- The universal time of a whole number. -/
def ofInt? (n : Int) : Option Instant :=
  if millisecondsAbove < n.natAbs then ofEpoch? (n * 1000) else ofEpoch? (n * 1000000)

/-- The universal time of a number with a fraction, to the nearest microsecond. -/
def ofFloat? (x : Binary64) : Option Instant := do
  let (whole, _) ← x.split?
  let scaled ← (x.mulNat (if millisecondsAbove < whole.natAbs then 1000 else 1000000)).round?
  ofEpoch? scaled

/-- Reads a point in time from a text. -/
def read? (text : String) : Option Instant :=
  let chars := text.toList
  match ofDateText? chars with
  | some t => some t
  | none =>
    let (negative, digits) := Decimal.signed chars
    if !digits.isEmpty && digits.all Char.isDigit then
      let n : Int := Decimal.ofDigits digits
      ofInt? (if negative then -n else n)
    else (Decimal.unsigned? negative digits).bind ofFloat?

end TriggerFlow.Instant
