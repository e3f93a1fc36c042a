import TriggerFlow.Json.Printer

/-!
Messages with placeholders. A placeholder is a percent sign, perhaps flags, a width and a precision, and
a letter that says how the next argument is written: `s` as it is displayed, `r` and `a` in literal form,
`d`, `i` and `u` as a whole number, `x`, `X` and `o` in another base, and `f` with a fixed count of
decimals. Two percent signs stand for one. A name in parentheses behind the percent sign takes that member
of the only argument instead.
-/

namespace TriggerFlow.Log

/-- Why a message cannot be completed. -/
inductive MessageFault where
  | tooFewArguments
  | tooManyArguments
  | incomplete
  | unsupported (letter : Char) (index : Nat)
  | numberRequired (letter : Char) (kind : String)
  | integerRequired (letter : Char) (kind : String)
  | realRequired (kind : String)
  | incompleteName
  | membersRequired
  | noMember (name : String)
  deriving DecidableEq, Repr

def MessageFault.message : MessageFault → String
  | .tooFewArguments => "not enough arguments for format string"
  | .tooManyArguments => "not all arguments converted during string formatting"
  | .incomplete => "incomplete format"
  | .unsupported letter index =>
    "unsupported format character '" ++ letter.toString ++ "' (0x" ++
      String.ofList (Nat.toDigits 16 letter.toNat) ++ ") at index " ++ toString index
  | .numberRequired letter kind =>
    "%" ++ letter.toString ++ " format: a real number is required, not " ++ kind
  | .integerRequired letter kind =>
    "%" ++ letter.toString ++ " format: an integer is required, not " ++ kind
  | .realRequired kind => "must be real number, not " ++ kind
  | .incompleteName => "incomplete format key"
  | .membersRequired => "format requires a mapping"
  | .noMember name => Text.quoted name

/-- Whether the fault lies in the message and not in its arguments. -/
def MessageFault.blamesMessage : MessageFault → Bool
  | .incomplete | .incompleteName | .unsupported .. => true
  | _ => false

/-- How an argument is laid out. -/
structure Placement where
  flags : List Char
  width : Nat
  precision : Option Nat
  deriving DecidableEq, Repr

namespace Placement

/-- Fills a text up to the width, with the sign in front of zeros. -/
def fill (p : Placement) (numeric : Bool) (sign text : String) : String :=
  let missing := p.width - (sign.length + text.length)
  let run (c : Char) : String := String.ofList (List.replicate missing c)
  if p.flags.contains '-' then sign ++ text ++ run ' '
  else if numeric && p.flags.contains '0' then sign ++ run '0' ++ text
  else run ' ' ++ sign ++ text

/-- The sign of a number. -/
def sign (p : Placement) (negative : Bool) : String :=
  if negative then "-"
  else if p.flags.contains '+' then "+"
  else if p.flags.contains ' ' then " "
  else ""

/-- A text, cut to the precision. -/
def text (p : Placement) (s : String) : String :=
  p.fill false "" (match p.precision with
    | some n => (s.take n).toString
    | none => s)

/-- A whole number in a base. -/
def whole (p : Placement) (base : Nat) (lead : String) (upper : Bool) (n : Int) : String :=
  let digits := String.ofList (Nat.toDigits base n.natAbs)
  let padded := String.ofList (List.replicate (p.precision.getD 0 - digits.length) '0') ++ digits
  p.fill true (p.sign (n < 0) ++ if p.flags.contains '#' then lead else "")
    (if upper then Text.upperAscii padded else padded)

/-- A finite number with a fixed count of decimals, a tie going to the even digit. -/
def fixed (p : Placement) (negative : Bool) (significand : Nat) (exponent : Int) : String :=
  let places := p.precision.getD 6
  let up := if 0 ≤ exponent then twoTo exponent.toNat else 1
  let den := if 0 ≤ exponent then 1 else twoTo (-exponent).toNat
  let scaled := Binary64.roundDiv (significand * up * tenTo places) den
  let fraction := if places = 0 then ""
    else "." ++ Text.padNat places (scaled % tenTo places)
  p.fill true (p.sign negative) (toString (scaled / tenTo places) ++ fraction)

end Placement

/-- The whole number that a datum counts as, cut toward zero. -/
def wholeOf? : Json → Option Int
  | .bool b => some (if b then 1 else 0)
  | .int n => some n
  | .float x => x.split?.map Prod.fst
  | _ => none

/-- The number that a datum counts as. -/
def realOf? : Json → Option Binary64
  | .bool b => some (.ofIntRounded (if b then 1 else 0))
  | .int n => some (.ofIntRounded n)
  | .float x => some x
  | _ => none

/-- The literal form in ASCII. -/
def asciiLiteral (datum : Json) : String :=
  String.join (datum.literal.toList.map fun c =>
    if c.toNat < 0x80 then c.toString else Text.numericEscape c.toNat)

/-- One argument, laid out by a letter that stands at an index. -/
def argument (p : Placement) (letter : Char) (index : Nat) (datum : Json) : Except MessageFault String :=
  let integer (base : Nat) (lead : String) (upper : Bool) : Except MessageFault String :=
    match datum, wholeOf? datum with
    | .float _, _ => .error (.integerRequired letter datum.kindName)
    | _, some n => .ok (p.whole base lead upper n)
    | _, none => .error (.integerRequired letter datum.kindName)
  match letter with
  | 's' => .ok (p.text datum.display)
  | 'r' => .ok (p.text datum.literal)
  | 'a' => .ok (p.text (asciiLiteral datum))
  | 'd' | 'i' | 'u' =>
    match wholeOf? datum with
    | some n => .ok (p.whole 10 "" false n)
    | none => .error (.numberRequired letter datum.kindName)
  | 'x' => integer 16 "0x" false
  | 'X' => integer 16 "0X" true
  | 'o' => integer 8 "0o" false
  | 'f' | 'F' =>
    match realOf? datum with
    | none => .error (.realRequired datum.kindName)
    | some x =>
      match x.shape with
      | .finite negative significand exponent => .ok (p.fixed negative significand exponent)
      | _ => .ok (p.text (Decimal.text x))
  | _ => .error (.unsupported letter index)

/-- What follows the percent sign of a placeholder without a name. -/
structure Placeholder where
  placement : Placement
  /-- The characters up to the letter. -/
  length : Nat
  after : List Char

/-- Reads the flags, the width and the precision in front of a letter. A mark of length does nothing. -/
def Placeholder.read (input : List Char) : Placeholder :=
  let (flags, rest) := input.span fun c => ['-', '+', ' ', '#', '0'].contains c
  let (width, rest) := rest.span Char.isDigit
  let (precision, rest) := match rest with
    | '.' :: rest =>
      let (digits, rest) := rest.span Char.isDigit
      (some (Decimal.ofDigits digits), rest)
    | rest => (none, rest)
  let after := match rest with
    | c :: rest => if ['h', 'l', 'L'].contains c then rest else c :: rest
    | [] => []
  ⟨⟨flags, Decimal.ofDigits width, precision⟩, input.length - after.length, after⟩

/-- The name behind a percent sign, with the datum that it stands for. -/
def named (arguments : Option Members) (input : List Char) : Except MessageFault (Json × List Char) :=
  match arguments with
  | none => .error .membersRequired
  | some members =>
    match Text.cutFirst? ')' input with
    | none => .error .incompleteName
    | some (name, after) =>
      match Ordered.get? members (String.ofList name) with
      | some datum => .ok (datum, after)
      | none => .error (.noMember (String.ofList name))

/-- Completes a message of at most so many characters. `index` counts those that came before, and
`members` are those of the only argument, which then may be left over. -/
def completeWithin (members : Option Members) :
    Nat → Nat → List Char → List Json → Except MessageFault String
  | fuel + 1, index, c :: rest, arguments =>
    if c ≠ '%' then (c.toString ++ ·) <$> completeWithin members fuel (index + 1) rest arguments
    else match rest with
    | '%' :: after => ("%" ++ ·) <$> completeWithin members fuel (index + 2) after arguments
    | '(' :: inner => do
      let (datum, rest) ← named members inner
      let h := Placeholder.read rest
      let place := index + 1 + (inner.length + 1 - rest.length) + h.length
      match h.after with
      | [] => .error .incomplete
      | letter :: after =>
        let written ← argument h.placement letter place datum
        (written ++ ·) <$> completeWithin members fuel (place + 1) after arguments
    | _ =>
      let h := Placeholder.read rest
      let place := index + 1 + h.length
      match h.after, arguments with
      | [], _ => .error .incomplete
      | _ :: _, [] => .error .tooFewArguments
      | letter :: after, first :: others => do
        let written ← argument h.placement letter place first
        (written ++ ·) <$> completeWithin members fuel (place + 1) after others
  | _, _, _, arguments =>
    if arguments.isEmpty || members.isSome then .ok "" else .error .tooManyArguments

/-- A message with its arguments put in. Without arguments it stays as it is. -/
def complete (message : String) (arguments : List Json) : Except MessageFault String :=
  let members := match arguments with
    | [.object (first :: rest)] => some (first :: rest)
    | _ => none
  if arguments.isEmpty then .ok message
  else completeWithin members (message.length + 1) 0 message.toList arguments

end TriggerFlow.Log
