import TriggerFlow.Ordered
import TriggerFlow.Text.Trim

/-!
Files of assignments, `NAME=value`, one to a line. Values may be quoted, comments begin with a hash, and
a value may refer to names that stand outside the file or before it in the file. A line that is no
assignment is passed over.
-/

namespace TriggerFlow.Assignment

/-- A name with its value; a name that stands alone has none. -/
structure Entry where
  name : String
  value : Option String
  deriving DecidableEq, Repr

/-- All line breaks become line feeds. -/
def plainBreaks : List Char → List Char
  | [] => []
  | '\r' :: '\n' :: rest => '\n' :: plainBreaks rest
  | '\r' :: rest => '\n' :: plainBreaks rest
  | c :: rest => c :: plainBreaks rest

/-- Drops blanks, but no line breaks. -/
def skipGap (input : List Char) : List Char :=
  input.dropWhile fun c => Text.isBlank c && c ≠ '\n'

/-- What follows the line at hand. -/
def nextLine (input : List Char) : List Char := (input.dropWhile (· ≠ '\n')).drop 1

/-- What follows a line of which nothing is left but blanks and a comment. -/
def lineEnd? (input : List Char) : Option (List Char) :=
  let input := match skipGap input with
    | '#' :: rest => rest.dropWhile (· ≠ '\n')
    | rest => rest
  match skipGap input with
  | [] => some []
  | '\n' :: rest => some rest
  | _ => none

/-- Cuts at the first quote that has no backslash before it. -/
def atFreeQuote? (quote : Char) : Bool → List Char → Option (List Char × List Char)
  | _, [] => none
  | escaped, c :: rest =>
    if c = quote ∧ !escaped then some ([], rest)
    else (atFreeQuote? quote (c = '\\') rest).map fun parts => (c :: parts.1, parts.2)

/-- A quoted text up to its closing quote. If every quote has a backslash before it, the last one
closes. -/
def quoted? (quote : Char) (input : List Char) : Option (List Char × List Char) :=
  (atFreeQuote? quote false input).or (Text.cutLast? quote input)

/-- Puts characters in the place of their escapes. -/
def unescape (escaped? : Char → Option Char) : List Char → List Char
  | '\\' :: c :: rest =>
    match escaped? c with
    | some meant => meant :: unescape escaped? rest
    | none => '\\' :: unescape escaped? (c :: rest)
  | c :: rest => c :: unescape escaped? rest
  | [] => []

/-- The escapes between single quotes. -/
def singleEscape? (c : Char) : Option Char := if c = '\\' ∨ c = '\'' then some c else none

/-- The escapes between double quotes. -/
def doubleEscape? : Char → Option Char
  | '\\' => some '\\'
  | '\'' => some '\''
  | '"' => some '"'
  | 'a' => some '\x07'
  | 'b' => some '\x08'
  | 'f' => some '\x0c'
  | 'n' => some '\n'
  | 'r' => some '\r'
  | 't' => some '\t'
  | 'v' => some '\x0b'
  | _ => none

/-- What stands before a comment. A comment begins with a hash after a blank. -/
def beforeComment : Bool → List Char → List Char
  | _, [] => []
  | afterBlank, c :: rest =>
    if c = '#' && afterBlank then [] else c :: beforeComment (Text.isBlank c) rest

/-- The text without the blanks at its end. -/
def trimEnd (text : List Char) : List Char := (text.reverse.dropWhile Text.isBlank).reverse

/-- A value, and what follows it. -/
def value? : List Char → Option (List Char × List Char)
  | '\'' :: rest => (quoted? '\'' rest).map fun parts => (unescape singleEscape? parts.1, parts.2)
  | '"' :: rest => (quoted? '"' rest).map fun parts => (unescape doubleEscape? parts.1, parts.2)
  | input =>
    some (trimEnd (beforeComment false (input.takeWhile (· ≠ '\n'))), input.dropWhile (· ≠ '\n'))

/-- Drops the word `export` in front of a name. -/
def skipExport (input : List Char) : List Char :=
  if "export".toList.isPrefixOf input then
    let rest := input.drop 6
    let named := skipGap rest
    if named.length < rest.length then named else input
  else input

/-- A name, and what follows it. A comment in the place of a name is an empty one. -/
def name? : List Char → Option (List Char × List Char)
  | '#' :: rest => some ([], '#' :: rest)
  | '\'' :: rest =>
    match rest.span (· ≠ '\'') with
    | (c :: name, _ :: after) => some (c :: name, after)
    | _ => none
  | input =>
    match input.span fun c => !(c = '=' || c = '#' || Text.isBlank c) with
    | ([], _) => none
    | parts => some parts

/-- The assignment at the front, if there is one, and what follows it. -/
def entry (input : List Char) : Option Entry × List Char :=
  let input := skipExport input
  match name? input with
  | none => (none, nextLine input)
  | some (name, rest) =>
    let rest := skipGap rest
    let valued := match rest with
      | '=' :: rest =>
        match value? (skipGap rest) with
        | some (value, rest) => (some (some (String.ofList value)), rest)
        | none => (none, skipGap rest)
      | rest => (some none, rest)
    match valued with
    | (none, rest) => (none, nextLine rest)
    | (some value, rest) =>
      match lineEnd? rest with
      | none => (none, nextLine rest)
      | some rest => (if name.isEmpty then none else some ⟨String.ofList name, value⟩, rest)

/-- The assignments of a text of at most so many characters. -/
def entriesWithin : Nat → List Char → List Entry
  | 0, _ => []
  | fuel + 1, input =>
    match input.dropWhile Text.isBlank with
    | [] => []
    | input =>
      let (found, rest) := entry input
      found.toList ++ entriesWithin fuel rest

/-- The assignments of a file, with their references as they stand. -/
def entries (text : String) : List Entry := entriesWithin (text.length + 1) (plainBreaks text.toList)

/-- A reference at the front, behind the dollar sign: the name, the text that stands for an absent value,
and what follows. -/
def reference? : List Char → Option (List Char × List Char × List Char)
  | '{' :: rest =>
    match rest.span fun c => !(c = '}' || c = ':') with
    | (name, '}' :: rest) => some (name, [], rest)
    | (name, ':' :: '-' :: rest) =>
      match rest.span (· ≠ '}') with
      | (fallback, _ :: rest) => some (name, fallback, rest)
      | _ => none
    | _ => none
  | _ => none

/-- Puts values in the place of references, in a text of at most so many characters. A name with no entry
takes the text that stands for it; a name that stands alone in the file is empty. -/
def expandWithin (known : String → Option (Option String)) : Nat → List Char → List Char
  | 0, text => text
  | _, [] => []
  | fuel + 1, c :: rest =>
    match if c = '$' then reference? rest else none with
    | some (name, fallback, after) =>
      let meant := match known (String.ofList name) with
        | some value => (value.getD "").toList
        | none => fallback
      meant ++ expandWithin known fuel after
    | none => c :: expandWithin known fuel rest

/-- The values of a file by name. What stands in the file comes before what stands outside it. -/
def valuesFrom (outside : Ordered String) :
    List Entry → Ordered (Option String) → Ordered (Option String)
  | [], values => values
  | e :: rest, values =>
    let known (name : String) : Option (Option String) :=
      (values.get? name).or ((outside.get? name).map some)
    let value := e.value.map fun text =>
      String.ofList (expandWithin known text.length text.toList)
    valuesFrom outside rest (values.set e.name value)

/-- The values of a file. -/
def values (outside : Ordered String) (text : String) : Ordered (Option String) :=
  valuesFrom outside (entries text) []

end TriggerFlow.Assignment
