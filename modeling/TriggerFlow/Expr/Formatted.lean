import TriggerFlow.Expr.Token

/-!
The inner form of formatted strings. A formatted string alternates plain text and replacement fields in
braces; a field holds an expression, an optional conversion and an optional format, which may hold
fields again, once. Only whether the form is right is decided here, given a test for the expressions.
-/

namespace TriggerFlow.Expr.Formatted

/-- Characters read into the front of what was read after them. -/
def prepend (front : List Char) (after : Option (List Char × Bool × List Char)) :
    Option (List Char × Bool × List Char) :=
  after.map fun parts => (front ++ parts.1, parts.2)

/-- Plain text up to the next field, to the end of a format, or to the end of the string, and what
follows it. `nested` says that the text belongs to a format, where a closing brace ends it and doubled
braces have no meaning. The flag of the answer says that a doubled brace ended the text. `fuel` bounds
the number of characters. -/
def plain? (raw nested : Bool) : Nat → List Char → Option (List Char × Bool × List Char)
  | _, [] => some ([], false, [])
  | 0, _ => none
  | fuel + 1, c :: rest =>
    if c = '\\' ∧ !raw then
      match rest with
      | [] => some ([c], false, [])
      | 'N' :: '\x7b' :: more =>
        match Text.cutFirst? '\x7d' more with
        | some (name, after) =>
          prepend (['\\', 'N', '\x7b'] ++ name ++ ['\x7d']) (plain? raw nested fuel after)
        | none => some (c :: rest, false, [])
      | d :: more =>
        if d = '\x7b' ∨ d = '\x7d' then prepend [c] (plain? raw nested fuel rest)
        else prepend [c, d] (plain? raw nested fuel more)
    else if c = '\x7b' ∨ c = '\x7d' then
      if nested then some ([], false, c :: rest)
      else if rest.head? = some c then some ([c], true, rest.drop 1)
      else if c = '\x7d' then none
      else some ([], false, c :: rest)
    else prepend [c] (plain? raw nested fuel rest)

/-- Where the scan of a field's expression stands: inside quotes of one or three, or among brackets. -/
structure Scan where
  quote : Option (Char × Bool)
  brackets : List Char

/-- The expression of a field, up to the mark that ends it, which is left in front. Quotes and brackets
are respected; backslashes and comments are refused. -/
def expression? : Scan → List Char → Option (List Char × List Char)
  | _, [] => none
  | scan, c :: rest =>
    let take (scan : Scan) := (expression? scan rest).map fun parts => (c :: parts.1, parts.2)
    if c = '\\' then none
    else match scan.quote with
    | some (quote, triple) =>
      if c = quote then
        if triple then
          match rest with
          | d :: e :: more =>
            if d = c ∧ e = c then
              (expression? { scan with quote := none } more).map fun parts =>
                (c :: d :: e :: parts.1, parts.2)
            else take scan
          | _ => take scan
        else take { scan with quote := none }
      else take scan
    | none =>
      if c = '\'' ∨ c = '"' then
        match rest with
        | d :: e :: more =>
          if d = c ∧ e = c then
            (expression? { scan with quote := some (c, true) } more).map fun parts =>
              (c :: d :: e :: parts.1, parts.2)
          else take { scan with quote := some (c, false) }
        | _ => take { scan with quote := some (c, false) }
      else if (Lexer.closing? c).isSome then
        if Lexer.maxDepth ≤ scan.brackets.length then none
        else take { scan with brackets := c :: scan.brackets }
      else if c = '#' then none
      else if scan.brackets.isEmpty && ['!', ':', '\x7d', '=', '>', '<'].contains c then
        match rest with
        | '=' :: more =>
          if c ≠ ':' ∧ c ≠ '\x7d' then
            (expression? scan more).map fun parts => (c :: '=' :: parts.1, parts.2)
          else some ([], c :: rest)
        | _ => if c = '>' ∨ c = '<' then take scan else some ([], c :: rest)
      else if c = ']' ∨ c = '\x7d' ∨ c = ')' then
        match scan.brackets with
        | b :: outer => if Lexer.closing? b = some c then take { scan with brackets := outer } else none
        | [] => none
      else take scan
termination_by _ text => text.length

/-- Whether a field's expression is more than blanks. -/
def hasContent (text : List Char) : Bool :=
  text.any fun c => !(c = ' ' || c = '\t' || c = '\n' || c.toNat = 12)

/-- What follows a conversion in front, if there is one. -/
def conversion? (text : List Char) : Option (List Char) :=
  match text with
  | '!' :: c :: rest => if c = 's' ∨ c = 'r' ∨ c = 'a' then some rest else none
  | '!' :: [] => none
  | _ => some text

/-- Checks a formatted string from some place on, and gives what follows the format that it is in.
`level` counts the fields around it and `fuel` bounds the steps. -/
def rest? (named : String → Option Char) (isExpression : List Char → Bool) (raw : Bool) :
    Nat → Nat → List Char → Option (List Char)
  | 0, _, _ => none
  | fuel + 1, level, text => do
    let (front, doubled, after) ← plain? raw (level != 0) text.length text
    if !raw && (Lexer.unescape? named front).isNone then none
    else if doubled then rest? named isExpression raw fuel level after
    else match after with
    | '\x7b' :: field =>
      if 2 ≤ level then none
      else
        let (expression, after) ← expression? ⟨none, []⟩ field
        if !hasContent expression || !isExpression expression then none
        else
          let after := match after with
            | '=' :: more => more
            | _ => after
          let after ← conversion? after
          let after ← match after with
            | ':' :: more => if more.isEmpty then none else rest? named isExpression raw fuel (level + 1) more
            | _ => some after
          match after with
          | '\x7d' :: more => rest? named isExpression raw fuel level more
          | _ => none
    | _ => some after

/-- Whether the characters between the quotes of a formatted string have the right form. -/
def isWellFormed (named : String → Option Char) (isExpression : List Char → Bool) (raw : Bool)
    (body : List Char) : Bool :=
  rest? named isExpression raw (2 * body.length + 2) 0 body = some []

end TriggerFlow.Expr.Formatted
