import TriggerFlow.Text.Trim

/-!
Operators of two families. Expressions may spell their operators `===`, `!==`, `&&`, `||` and `!`;
before parsing, these spellings are replaced by `==`, `!=` and the words. String literals are left
alone.
-/

namespace TriggerFlow.Expr.Spelling

/-- The rest of a string literal after its opening quote, up to and including the closing one. A
backslash takes the next character with it, which must not be a line end. -/
def literalRest? (quote : Char) : List Char → Option (List Char × List Char)
  | [] => none
  | [c] => if c = quote then some ([c], []) else none
  | c :: d :: rest =>
    if c = quote then some ([c], d :: rest)
    else if c = '\\' then
      if d = '\n' then none
      else (literalRest? quote rest).map fun parts => (c :: d :: parts.1, parts.2)
    else (literalRest? quote (d :: rest)).map fun parts => (c :: parts.1, parts.2)

/-- A string literal in front. -/
def literal? : List Char → Option (List Char × List Char)
  | [] => none
  | c :: rest =>
    if c = '"' ∨ c = '\'' then (literalRest? c rest).map fun parts => (c :: parts.1, parts.2)
    else none

/-- A stretch of an expression. -/
inductive Segment where
  | code (text : List Char)
  | literal (text : List Char)
  deriving DecidableEq, Repr

/-- The characters of a segment. -/
def Segment.chars : Segment → List Char
  | .code text => text
  | .literal text => text

/-- Puts a character in front of the segments, in a stretch of code. -/
def consCode (c : Char) : List Segment → List Segment
  | .code text :: rest => .code (c :: text) :: rest
  | segments => .code [c] :: segments

/-- Cuts an expression into code and string literals, the leftmost literal first. `fuel` bounds the
number of segments and characters. -/
def segmentsWithin : Nat → List Char → List Segment
  | 0, text => [.code text]
  | _ + 1, [] => []
  | fuel + 1, c :: rest =>
    match literal? (c :: rest) with
    | some (text, after) => .literal text :: segmentsWithin fuel after
    | none => consCode c (segmentsWithin fuel rest)

/-- The segments of an expression. -/
def segments (text : List Char) : List Segment := segmentsWithin text.length text

/-- Replaces every occurrence of a pattern, the leftmost first. `skip` counts the characters of an
occurrence that are still to be passed over. -/
def replaceFrom (pattern replacement : List Char) : Nat → List Char → List Char
  | _, [] => []
  | skip + 1, _ :: rest => replaceFrom pattern replacement skip rest
  | 0, c :: rest =>
    if pattern.isPrefixOf (c :: rest) then
      replacement ++ replaceFrom pattern replacement (pattern.length - 1) rest
    else c :: replaceFrom pattern replacement 0 rest

/-- Replaces every occurrence of a nonempty pattern. -/
def replaceAll (pattern replacement : String) (text : List Char) : List Char :=
  replaceFrom pattern.toList replacement.toList 0 text

/-- Replaces every exclamation mark that no equality sign follows. -/
def replaceNot : List Char → List Char
  | [] => []
  | '!' :: '=' :: rest => '!' :: '=' :: replaceNot rest
  | '!' :: rest => " not ".toList ++ replaceNot rest
  | c :: rest => c :: replaceNot rest

/-- The operators of a stretch of code in words. -/
def operators (text : List Char) : List Char :=
  replaceNot (replaceAll "||" " or " (replaceAll "&&" " and "
    (replaceAll "!==" "!=" (replaceAll "===" "==" text))))

/-- A segment with its operators in words. -/
def Segment.inWords : Segment → List Char
  | .code text => operators text
  | .literal text => text

/-- An expression with its operators in words, without blanks around it. -/
def inWords (expression : String) : List Char :=
  Text.trim ((segments expression.toList).flatMap Segment.inWords)

end TriggerFlow.Expr.Spelling
