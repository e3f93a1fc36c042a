import TriggerFlow.Json
import TriggerFlow.Number.Decimal

/-!
Reading JSON text. Beyond the standard, `NaN`, `Infinity` and `-Infinity` are numbers, and of two
members with one name the later wins. The first thing wrong is reported with its place, counted in
characters from the front.
-/

namespace TriggerFlow.Json

/-- Why a text is not JSON. -/
inductive Fault where
  /-- The text cannot go on as it does at this place. -/
  | malformed (position : Nat)
  /-- An integer has more digits than are read. -/
  | tooManyDigits (count : Nat)
  deriving DecidableEq, Repr

/-- An integer of more digits is refused. -/
def maxDigits : Nat := 4300

/-- The text of a fault. -/
def Fault.message : Fault → String
  | .malformed _ => "not valid JSON"
  | .tooManyDigits count =>
    "Exceeds the limit (" ++ toString maxDigits ++ " digits) for integer string conversion: value has " ++
      toString count ++ " digits; use sys.set_int_max_str_digits() to increase the limit"

namespace Reader

/-- A fault while reading: places are counted from the end of the text, by what is left there. -/
inductive Stop where
  | malformed (left : Nat)
  | tooManyDigits (count : Nat)

/-- The blanks of JSON. -/
def isSpace (c : Char) : Bool := c = ' ' || c = '\t' || c = '\n' || c = '\r'

def skipSpace (input : List Char) : List Char := input.dropWhile isSpace

/-- Four hexadecimal digits in front. -/
def hex4? : List Char → Option (Nat × List Char)
  | a :: b :: c :: d :: rest => do
    let a ← Text.hexDigit? a
    let b ← Text.hexDigit? b
    let c ← Text.hexDigit? c
    let d ← Text.hexDigit? d
    pure (((a * 16 + b) * 16 + c) * 16 + d, rest)
  | _ => none

/-- What the character after a backslash stands for. -/
def simpleEscape? (c : Char) : Option Char :=
  if c = '"' then some '"'
  else if c = '\\' then some '\\'
  else if c = '/' then some '/'
  else if c = 'b' then some (Char.ofNat 8)
  else if c = 'f' then some (Char.ofNat 12)
  else if c = 'n' then some '\n'
  else if c = 'r' then some '\r'
  else if c = 't' then some '\t'
  else none

/-- A code unit as a character; a lone surrogate becomes the replacement character. -/
def unitChar (code : Nat) : Char :=
  if 0xd800 ≤ code ∧ code < 0xe000 then Char.ofNat 0xfffd else Char.ofNat code

/-- A code unit after the front of a `\u` escape, joined with a low surrogate that follows a high one. -/
def unicodeEscape (input : List Char) : Except Stop (Char × List Char) :=
  match hex4? input with
  | none | some (_, []) => .error (.malformed (input.length + 1))
  | some (code, rest) =>
    if 0xd800 ≤ code ∧ code < 0xdc00 then
      match rest with
      | '\\' :: 'u' :: more =>
        match hex4? more with
        | none =>
          if more.length < 5 then .ok (unitChar code, rest) else .error (.malformed (more.length + 1))
        | some (low, after) =>
          if 0xdc00 ≤ low ∧ low < 0xe000 ∧ !after.isEmpty then
            .ok (Char.ofNat (0x10000 + (code - 0xd800) * 0x400 + (low - 0xdc00)), after)
          else .ok (unitChar code, rest)
      | _ => .ok (unitChar code, rest)
    else .ok (unitChar code, rest)

/-- The characters of a string up to its closing quote; `opening` is what is left at its opening
quote, and `fuel` bounds the number of characters. -/
def string (opening : Nat) : Nat → List Char → Except Stop (List Char × List Char)
  | 0, _ => .error (.malformed opening)
  | _ + 1, [] => .error (.malformed opening)
  | fuel + 1, c :: rest =>
    if c = '"' then .ok ([], rest)
    else if c = '\\' then
      match rest with
      | [] => .error (.malformed opening)
      | 'u' :: more => do
        let (value, after) ← unicodeEscape more
        let (chars, after) ← string opening fuel after
        .ok (value :: chars, after)
      | e :: more =>
        match simpleEscape? e with
        | none => .error (.malformed (rest.length + 1))
        | some value => do
          let (chars, after) ← string opening fuel more
          .ok (value :: chars, after)
    else if c.toNat < 0x20 then .error (.malformed (rest.length + 1))
    else do
      let (chars, after) ← string opening fuel rest
      .ok (c :: chars, after)

/-- The fraction of a number, if a point and a digit stand in front. -/
def fraction (input : List Char) : List Char × List Char :=
  match input with
  | '.' :: rest =>
    let (digits, after) := Decimal.digitRun rest
    if digits.isEmpty then ([], input) else (digits, after)
  | _ => ([], input)

/-- The exponent of a number, if a mark and a digit stand in front. -/
def exponent (input : List Char) : Option Int × List Char :=
  match input with
  | c :: rest =>
    if c = 'e' ∨ c = 'E' then
      let (negative, rest) := Decimal.signed rest
      let (digits, after) := Decimal.digitRun rest
      if digits.isEmpty then (none, input)
      else
        let value : Int := Decimal.ofDigits digits
        (some (if negative then -value else value), after)
    else (none, input)
  | [] => (none, [])

/-- An unsigned number: an integer unless it has a fraction or an exponent. `start` is what is left
where the number begins. -/
def number (start : Nat) (negative : Bool) (input : List Char) : Except Stop (Json × List Char) :=
  let (run, afterRun) := Decimal.digitRun input
  let (whole, rest) := match run with
    | '0' :: more => (['0'], more ++ afterRun)
    | _ => (run, afterRun)
  if whole.isEmpty then .error (.malformed start)
  else
    let (digits, rest') := fraction rest
    let (power, after) := exponent rest'
    if digits.isEmpty && power.isNone then
      if maxDigits < whole.length then .error (.tooManyDigits whole.length)
      else
        let value : Int := Decimal.ofDigits whole
        .ok (.int (if negative then -value else value), after)
    else
      let value := Decimal.nearest negative (Decimal.ofDigits (whole ++ digits))
        (power.getD 0 - digits.length)
      .ok (.float value, after)

/-- What follows a word, if the word stands in front. -/
def after? (word : String) (input : List Char) : Option (List Char) :=
  if word.toList.isPrefixOf input then some (input.drop word.length) else none

mutual

/-- One datum in front of the text, without blanks before it. `fuel` bounds the depth and the number
of items. -/
def value : Nat → List Char → Except Stop (Json × List Char)
  | 0, input => .error (.malformed input.length)
  | fuel + 1, input =>
    let stop := Except.error (Stop.malformed input.length)
    match input with
    | [] => stop
    | '"' :: rest => do
      let (chars, after) ← string input.length (rest.length + 1) rest
      .ok (.text (String.ofList chars), after)
    | '[' :: rest =>
      match skipSpace rest with
      | ']' :: after => .ok (.list [], after)
      | rest => do
        let (items, after) ← items fuel rest
        .ok (.list items, after)
    | '\x7b' :: rest =>
      match skipSpace rest with
      | '\x7d' :: after => .ok (.object [], after)
      | rest => do
        let (members, after) ← members fuel [] rest
        .ok (.object members, after)
    | '-' :: rest =>
      match after? "Infinity" rest with
      | some after => .ok (.float (.infinity true), after)
      | none => number input.length true rest
    | c :: _ =>
      if c.isDigit then number input.length false input
      else if let some after := after? "null" input then .ok (.null, after)
      else if let some after := after? "true" input then .ok (.bool true, after)
      else if let some after := after? "false" input then .ok (.bool false, after)
      else if let some after := after? "NaN" input then .ok (.float .nan, after)
      else if let some after := after? "Infinity" input then .ok (.float (.infinity false), after)
      else stop

/-- The items of a list up to its closing bracket. -/
def items : Nat → List Char → Except Stop (List Json × List Char)
  | 0, input => .error (.malformed input.length)
  | fuel + 1, input => do
    let (item, after) ← value fuel input
    match skipSpace after with
    | ']' :: rest => .ok ([item], rest)
    | ',' :: rest =>
      let (others, rest) ← items fuel (skipSpace rest)
      .ok (item :: others, rest)
    | rest => .error (.malformed rest.length)

/-- The members of an object up to its closing bracket, set in those read before. -/
def members : Nat → Members → List Char → Except Stop (Members × List Char)
  | 0, _, input => .error (.malformed input.length)
  | fuel + 1, before, input =>
    match input with
    | '"' :: rest => do
      let (chars, after) ← string input.length (rest.length + 1) rest
      match skipSpace after with
      | ':' :: rest =>
        let (datum, after) ← value fuel (skipSpace rest)
        let now := Ordered.set before (String.ofList chars) datum
        match skipSpace after with
        | '\x7d' :: rest => .ok (now, rest)
        | ',' :: rest => members fuel now (skipSpace rest)
        | rest => .error (.malformed rest.length)
      | rest => .error (.malformed rest.length)
    | _ => .error (.malformed input.length)

end

end Reader

/-- Reads a text that holds one datum and blanks around it. -/
def read (text : String) : Except Fault Json :=
  let chars := text.toList
  let total := chars.length
  let place (left : Nat) : Fault := .malformed (total - left)
  if chars.head? = some (Char.ofNat 0xfeff) then .error (.malformed 0)
  else
    match Reader.value (total + 1) (Reader.skipSpace chars) with
    | .error (.malformed left) => .error (place left)
    | .error (.tooManyDigits count) => .error (.tooManyDigits count)
    | .ok (datum, after) =>
      match Reader.skipSpace after with
      | [] => .ok datum
      | rest => .error (place rest.length)

/-- The datum a text holds, if it is JSON. -/
def read? (text : String) : Option Json := (read text).toOption

end TriggerFlow.Json
