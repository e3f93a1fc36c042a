import TriggerFlow.Expr.Syntax
import TriggerFlow.Number.Decimal
import TriggerFlow.Text.Composition

/-!
The tokens of an expression. A lexer reads the whole text or fails; where it fails does not matter,
because every failure is the same complaint about the syntax.
-/

namespace TriggerFlow.Expr

/-- A token. -/
inductive Token where
  | name (id : String)
  | keyword (word : String)
  | number (c : Constant)
  | text (s : List Char)
  | bytes (bs : List UInt8)
  /-- A formatted string: its characters between the quotes, and whether backslashes are plain. -/
  | formatted (raw : Bool) (body : List Char)
  | symbol (s : String)
  deriving DecidableEq, Repr

namespace Lexer

/-- The words that are no names. -/
def keywords : List String :=
  ["False", "None", "True", "and", "as", "assert", "async", "await", "break", "class", "continue",
    "def", "del", "elif", "else", "except", "finally", "for", "from", "global", "if", "import", "in",
    "is", "lambda", "nonlocal", "not", "or", "pass", "raise", "return", "try", "while", "with",
    "yield"]

/-- The symbols, longer ones before their beginnings. -/
def symbols : List String :=
  ["**=", "//=", ">>=", "<<=", "...", "!=", "->", ":=", "<>", "==", "<=", ">=", "<<", ">>", "**",
    "//", "+=", "-=", "*=", "/=", "%=", "&=", "|=", "^=", "@=", "(", ")", "[", "]", "\x7b", "\x7d",
    ",", ":", ".", ";", "+", "-", "*", "/", "%", "&", "|", "^", "~", "<", ">", "=", "@"]

/-- Characters of names; beyond ASCII a name is checked as a whole. -/
def isNameChar (c : Char) : Bool := c.isAlphanum || c = '_' || 0x80 ≤ c.toNat

/-- Line ends of every convention become one character. -/
def unifyLines : List Char → List Char
  | [] => []
  | '\r' :: '\n' :: rest => '\n' :: unifyLines rest
  | '\r' :: rest => '\n' :: unifyLines rest
  | c :: rest => c :: unifyLines rest

/-! ### Numbers -/

/-- Whether a word stands in front and ends there. -/
def wordAhead (word : String) (text : List Char) : Bool :=
  word.toList.isPrefixOf text && !((text.drop word.length).head?.any isNameChar)

/-- A number may be followed at once by an operator word, but by no other letter or digit. -/
def numberEnds (text : List Char) : Bool :=
  match text with
  | [] => true
  | c :: rest =>
    !isNameChar c || ["and", "else", "for", "or", "not"].any (wordAhead · text) ||
      (c = 'i' && (rest.head?.any fun d => d = 'f' || d = 'n' || d = 's'))

/-- Digits of a kind in groups joined by single underscores; none if an underscore ends them. -/
def digitGroups? (isDigit : Char → Bool) : List Char → Option (List Char × List Char)
  | '_' :: d :: rest =>
    if isDigit d then (digitGroups? isDigit rest).map fun parts => (d :: parts.1, parts.2) else none
  | ['_'] => none
  | [] => some ([], [])
  | c :: rest =>
    if isDigit c then (digitGroups? isDigit rest).map fun parts => (c :: parts.1, parts.2)
    else some ([], c :: rest)

/-- An integer in another base, after the letter of its base. -/
def based? (base : Nat) (isDigit : Char → Bool) (text : List Char) : Option (Constant × List Char) := do
  let (digits, rest) ← digitGroups? isDigit text
  if digits.isEmpty || !numberEnds rest then none
  else
    let value := digits.foldl (fun n c => base * n + (Text.hexDigit? c).getD 0) 0
    some (.int value, rest)

/-- The exponent of a number. A mark without digits does not belong to the number, and is right only
where it begins a word. -/
def exponent? (text : List Char) : Option (Option Int × List Char) :=
  match text with
  | c :: rest =>
    if c = 'e' ∨ c = 'E' then
      let signed := rest.head?.any fun d => d = '+' || d = '-'
      let (negative, digits) := Decimal.signed rest
      if digits.head?.any Char.isDigit then do
        let (digits, after) ← digitGroups? Char.isDigit digits
        let value : Int := Decimal.ofDigits digits
        some (some (if negative then -value else value), after)
      else if signed || !numberEnds text then none
      else some (none, text)
    else some (none, text)
  | [] => some (none, [])

/-- The digits after a point, if there are any. -/
def fraction? (text : List Char) : Option (List Char × List Char) :=
  if text.head?.any Char.isDigit then digitGroups? Char.isDigit text else some ([], text)

/-- A number in base ten: an integer unless it has a point or an exponent, imaginary if the letter
`j` ends it. An integer other than zero has no leading zeros. -/
def decimal? (text : List Char) : Option (Constant × List Char) := do
  let (whole, rest) ← fraction? text
  let (pointed, digits, rest) ← match rest with
    | '.' :: rest => (fraction? rest).map fun parts => (true, parts)
    | _ => some (false, [], rest)
  let (power, rest) ← exponent? rest
  let number := Decimal.nearest false (Decimal.ofDigits (whole ++ digits))
    (power.getD 0 - digits.length)
  match rest with
  | c :: after =>
    if c = 'j' ∨ c = 'J' then
      if numberEnds after then some (.imaginary number, after) else none
    else finish pointed power.isSome whole number rest
  | [] => finish pointed power.isSome whole number rest
where
  finish (pointed powered : Bool) (whole : List Char) (number : Binary64) (rest : List Char) :
      Option (Constant × List Char) :=
    if !numberEnds rest then none
    else if pointed || powered then some (.float number, rest)
    else if whole.head? = some '0' && whole.any (· ≠ '0') then none
    else some (.int (Decimal.ofDigits whole), rest)

/-- A number in front; the text begins with a digit, or with a point and a digit. -/
def number? (text : List Char) : Option (Constant × List Char) :=
  match text with
  | '0' :: c :: rest =>
    if c = 'x' ∨ c = 'X' then based? 16 (fun d => (Text.hexDigit? d).isSome) rest
    else if c = 'o' ∨ c = 'O' then based? 8 (fun d => '0' ≤ d && d ≤ '7') rest
    else if c = 'b' ∨ c = 'B' then based? 2 (fun d => d = '0' || d = '1') rest
    else decimal? text
  | _ => decimal? text

/-! ### Strings -/

/-- The characters of a string up to three closing quotes. -/
def tripleBody? (quote : Char) : List Char → Option (List Char × List Char)
  | [] => none
  | '\\' :: c :: rest => (tripleBody? quote rest).map fun parts => ('\\' :: c :: parts.1, parts.2)
  | c :: rest =>
    if c = quote ∧ [quote, quote].isPrefixOf rest then some ([], rest.drop 2)
    else (tripleBody? quote rest).map fun parts => (c :: parts.1, parts.2)

/-- The characters of a string up to its closing quote, on one line. -/
def singleBody? (quote : Char) : List Char → Option (List Char × List Char)
  | [] => none
  | '\\' :: c :: rest => (singleBody? quote rest).map fun parts => ('\\' :: c :: parts.1, parts.2)
  | c :: rest =>
    if c = quote then some ([], rest)
    else if c = '\n' then none
    else (singleBody? quote rest).map fun parts => (c :: parts.1, parts.2)

/-- A string in front, from its opening quote: its characters between the quotes. -/
def stringBody? : List Char → Option (List Char × List Char)
  | [] => none
  | quote :: rest =>
    if [quote, quote].isPrefixOf rest then tripleBody? quote (rest.drop 2) else singleBody? quote rest

/-- A value of so many hexadecimal digits in front. -/
def hexValue? (count : Nat) (text : List Char) : Option (Nat × List Char) := do
  let digits ← (text.take count).mapM Text.hexDigit?
  if digits.length = count then some (digits.foldl (fun n d => 16 * n + d) 0, text.drop count)
  else none

/-- Up to three octal digits in front, the first of which is there. -/
def octalValue (text : List Char) : Nat × List Char :=
  let isOctal (c : Char) : Bool := '0' ≤ c && c ≤ '7'
  let digits := (text.take 3).takeWhile isOctal
  (digits.foldl (fun n c => 8 * n + (c.toNat - '0'.toNat)) 0, text.drop digits.length)

/-- The escapes of one letter, common to texts and bytes. -/
def letterEscape? (c : Char) : Option Char :=
  if c = '\\' ∨ c = '\'' ∨ c = '"' then some c
  else if c = 'n' then some '\n'
  else if c = 't' then some '\t'
  else if c = 'r' then some '\r'
  else if c = 'a' then some (Char.ofNat 7)
  else if c = 'b' then some (Char.ofNat 8)
  else if c = 'f' then some (Char.ofNat 12)
  else if c = 'v' then some (Char.ofNat 11)
  else none

/-- A code point as a character. A surrogate has none and becomes the replacement character. -/
def charOf? (code : Nat) : Option Char :=
  if 0x110000 ≤ code then none
  else if 0xd800 ≤ code ∧ code < 0xe000 then some (Char.ofNat 0xfffd)
  else some (Char.ofNat code)

/-- An escape after its backslash: the characters it stands for, and the rest. A backslash before any
other character stands for itself. -/
def escape? (named : String → Option Char) : List Char → Option (List Char × List Char)
  | [] => none
  | c :: rest =>
    let coded (count : Nat) : Option (List Char × List Char) := do
      let (code, after) ← hexValue? count rest
      let value ← charOf? code
      some ([value], after)
    if c = '\n' then some ([], rest)
    else if c = 'x' then coded 2
    else if c = 'u' then coded 4
    else if c = 'U' then coded 8
    else if c = 'N' then
      match rest with
      | '\x7b' :: more => do
        let (name, after) ← Text.cutFirst? '\x7d' more
        let value ← named (String.ofList name)
        some ([value], after)
      | _ => none
    else if '0' ≤ c ∧ c ≤ '7' then
      let (code, after) := octalValue (c :: rest)
      some ([Char.ofNat code], after)
    else match letterEscape? c with
      | some value => some ([value], rest)
      | none => some (['\\', c], rest)

/-- The text that the characters between quotes stand for; `fuel` bounds their number. -/
def unescapeWithin (named : String → Option Char) : Nat → List Char → Option (List Char)
  | _, [] => some []
  | 0, _ => none
  | fuel + 1, '\\' :: rest => do
    let (value, after) ← escape? named rest
    let more ← unescapeWithin named fuel after
    some (value ++ more)
  | fuel + 1, c :: rest => (unescapeWithin named fuel rest).map (c :: ·)

def unescape? (named : String → Option Char) (body : List Char) : Option (List Char) :=
  unescapeWithin named body.length body

/-- The bytes that the characters between quotes stand for; `fuel` bounds their number. -/
def unescapeBytesWithin : Nat → List Char → Option (List UInt8)
  | _, [] => some []
  | 0, _ => none
  | fuel + 1, '\\' :: c :: rest =>
    if c = '\n' then unescapeBytesWithin fuel rest
    else if c = 'x' then do
      let (code, after) ← hexValue? 2 rest
      let more ← unescapeBytesWithin fuel after
      some (UInt8.ofNat code :: more)
    else if '0' ≤ c ∧ c ≤ '7' then
      let (code, after) := octalValue (c :: rest)
      (unescapeBytesWithin fuel after).map (UInt8.ofNat code :: ·)
    else match letterEscape? c with
      | some value => (unescapeBytesWithin fuel rest).map (UInt8.ofNat value.toNat :: ·)
      | none => (unescapeBytesWithin fuel rest).map
          (UInt8.ofNat '\\'.toNat :: UInt8.ofNat c.toNat :: ·)
  | fuel + 1, c :: rest => (unescapeBytesWithin fuel rest).map (UInt8.ofNat c.toNat :: ·)

/-- Bytes hold ASCII alone. -/
def unescapeBytes? (raw : Bool) (body : List Char) : Option (List UInt8) :=
  if body.any fun c => 0x80 ≤ c.toNat then none
  else if raw then some (body.map fun c => UInt8.ofNat c.toNat)
  else unescapeBytesWithin body.length body

/-- The letters that may stand before a string. -/
def isStringMark (word : String) : Bool := ["b", "u", "r", "f", "br", "rb", "fr", "rf"].contains word

/-- A string after its marks, which are in lower case. -/
def stringToken? (named : String → Option Char) (marks : List Char) (text : List Char) :
    Option (Token × List Char) := do
  let (body, rest) ← stringBody? text
  let raw := marks.contains 'r'
  if marks.contains 'b' then
    let bytes ← unescapeBytes? raw body
    some (.bytes bytes, rest)
  else if marks.contains 'f' then some (.formatted raw body, rest)
  else
    let chars ← if raw then some body else unescape? named body
    some (.text chars, rest)

/-! ### The whole text -/

/-- A word in front: a string if quotes follow its marks, else a keyword or a name. A name beyond ASCII
is taken in its composed compatibility form. -/
def word? (named : String → Option Char) (text : List Char) : Option (Token × List Char) :=
  let run := text.takeWhile isNameChar
  let rest := text.dropWhile isNameChar
  let word := String.ofList run
  let quoted := rest.head?.any fun c => c = '"' || c = '\''
  if quoted && isStringMark (Text.lowerAscii word) then stringToken? named (run.map Char.toLower) rest
  else if keywords.contains word then some (.keyword word, rest)
  else if run.all fun c => c.toNat < 0x80 then some (.name word, rest)
  else if Text.isIdentifier run then some (.name (String.ofList (Text.compatible run)), rest)
  else none

/-- A symbol in front. -/
def symbol? (text : List Char) : Option (Token × List Char) :=
  (symbols.find? fun s => s.toList.isPrefixOf text).map fun s => (.symbol s, text.drop s.length)

/-- One token in front of a text without blanks before it. -/
def token? (named : String → Option Char) (text : List Char) : Option (Token × List Char) :=
  match text with
  | [] => none
  | c :: rest =>
    if c.isDigit || (c = '.' && rest.head?.any Char.isDigit) then
      (number? text).map fun parts => (.number parts.1, parts.2)
    else if isNameChar c then word? named text
    else if c = '"' ∨ c = '\'' then stringToken? named [] text
    else symbol? text

/-- The indentation of the line in front, and the line without it. A backslash at the end of a line
joins it with the next; of the joined lines the first indentation counts. -/
def indentation? : Nat → Nat → List Char → Option (Nat × List Char)
  | joined, column, ' ' :: rest => indentation? joined (column + 1) rest
  | joined, column, '\t' :: rest => indentation? joined ((column / 8 + 1) * 8) rest
  | joined, column, c :: rest =>
    if c.toNat = 12 then indentation? joined 0 rest
    else if c = '\\' then
      match rest with
      | '\n' :: d :: more => indentation? (if joined = 0 then column else joined) column (d :: more)
      | _ => none
    else some (if joined = 0 then column else joined, c :: rest)
  | joined, column, [] => some (if joined = 0 then column else joined, [])
termination_by _ _ text => text.length

/-- Where a lexer stands. -/
structure State where
  /-- The open brackets, the innermost first. -/
  open_ : List Char
  /-- A line of tokens has begun. -/
  begun : Bool
  /-- The line of tokens has ended. -/
  ended : Bool
  /-- The next character is the first of its line. -/
  atLineStart : Bool

/-- The bracket that closes another. -/
def closing? (c : Char) : Option Char :=
  if c = '(' then some ')' else if c = '[' then some ']' else if c = '\x7b' then some '\x7d' else none

/-- More brackets than this may not be open at once. -/
def maxDepth : Nat := 200

/-- The brackets that are open after a token; none if it closes a bracket that is not the last opened
one, or opens too many. -/
def afterToken? (brackets : List Char) : Token → Option (List Char)
  | .symbol s =>
    match s.toList with
    | [c] =>
      if (closing? c).isSome then
        if maxDepth ≤ brackets.length then none else some (c :: brackets)
      else if c = ')' ∨ c = ']' ∨ c = '\x7d' then
        match brackets with
        | b :: rest => if closing? b = some c then some rest else none
        | [] => none
      else some brackets
    | _ => some brackets
  | _ => some brackets

/-- The tokens of a text, which is one line of tokens with blank lines and comments around it. Inside
brackets a line end is a blank. `fuel` bounds the steps. -/
def tokensWithin (named : String → Option Char) : Nat → State → List Char → Option (List Token)
  | 0, _, _ => none
  | fuel + 1, state, text =>
    if state.atLineStart then
      match indentation? 0 0 text with
      | none => none
      | some (column, rest) =>
        let blank := match rest with
          | [] => true
          | c :: _ => c = '#' || c = '\n'
        if !blank && (0 < column || state.ended) then none
        else tokensWithin named fuel { state with atLineStart := false } rest
    else match text with
    | [] => if state.open_.isEmpty then some [] else none
    | c :: rest =>
      if c = ' ' ∨ c = '\t' ∨ c.toNat = 12 then tokensWithin named fuel state rest
      else if c = '#' then tokensWithin named fuel state (rest.dropWhile (· ≠ '\n'))
      else if c = '\n' then
        if !state.open_.isEmpty then tokensWithin named fuel state rest
        else tokensWithin named fuel { state with ended := state.begun, atLineStart := true } rest
      else if c = '\\' then
        match rest with
        | '\n' :: d :: more => tokensWithin named fuel state (d :: more)
        | _ => none
      else do
        let (token, rest) ← token? named text
        let brackets ← afterToken? state.open_ token
        let more ← tokensWithin named fuel { state with open_ := brackets, begun := true } rest
        some (token :: more)

end Lexer

/-- The tokens of a text, if it has a lexical form. `named` finds characters by their names. -/
def tokens? (named : String → Option Char) (text : List Char) : Option (List Token) :=
  let text := Lexer.unifyLines text
  Lexer.tokensWithin named (3 * text.length + 3) ⟨[], false, false, true⟩ text

end TriggerFlow.Expr
