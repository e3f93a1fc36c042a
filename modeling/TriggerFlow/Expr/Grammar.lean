import TriggerFlow.Expr.Formatted

/-!
The grammar of expressions, as parsers on tokens. Each parser takes the longest form that its rule
allows and leaves the rest. The four rules that come back to themselves are tied together at the end;
every other parser is a plain function of them. All arithmetic operators count as one level, because no
condition may hold one.
-/

namespace TriggerFlow.Expr

/-- Reads a term in front. -/
abbrev Parser := List Token → Option (Term × List Token)

/-- The rules that recursion goes through. -/
inductive Rule where
  | expression | inversion | factor | primary
  deriving DecidableEq, Repr

namespace Grammar

/-- The parsers that the rules name. -/
abbrev Rules := Rule → Parser

/-- What follows a symbol in front. -/
def symbol? (s : String) : List Token → Option (List Token)
  | .symbol t :: rest => if t = s then some rest else none
  | _ => none

/-- What follows a keyword in front. -/
def keyword? (word : String) : List Token → Option (List Token)
  | .keyword w :: rest => if w = word then some rest else none
  | _ => none

def atSymbol (s : String) (ts : List Token) : Bool := (symbol? s ts).isSome

def atKeyword (word : String) (ts : List Token) : Bool := (keyword? word ts).isSome

/-- Operands joined by a separator; `fuel` bounds their number. -/
def joined (operand : Parser) (separator : List Token → Option (List Token)) :
    Nat → List Token → Option (List Term × List Token)
  | 0, _ => none
  | fuel + 1, ts => do
    let (first, rest) ← operand ts
    match separator rest with
    | some rest =>
      let (others, rest) ← joined operand separator fuel rest
      some (first :: others, rest)
    | none => some ([first], rest)

/-- Elements with commas between them and perhaps one after the last, before a closing symbol, which is
left in front. The flag tells of a comma after the last; `fuel` bounds the number of elements. -/
def elements (element : Parser) (isClosing : List Token → Bool) :
    Nat → List Token → Option (List Term × Bool × List Token)
  | 0, _ => none
  | fuel + 1, ts => do
    let (first, rest) ← element ts
    match symbol? "," rest with
    | some rest =>
      if isClosing rest then some ([first], true, rest)
      else
        let (others, trailing, rest) ← elements element isClosing fuel rest
        some (first :: others, trailing, rest)
    | none => some ([first], false, rest)

mutual

/-- Whether a term may stand for something that values are assigned to. -/
def isTarget : Term → Bool
  | .name _ => true
  | .attribute .. => true
  | .subscript .. => true
  | .list items => areTargets items
  | .tuple items => areTargets items
  | _ => false

/-- The same for elements, which may have a star. -/
def areTargets : List Term → Bool
  | [] => true
  | .starred value :: rest => isTarget value && areTargets rest
  | item :: rest => isTarget item && areTargets rest

end

/-! ### Operators -/

/-- The symbols of arithmetic between two operands, but for the power. -/
def arithmetic : List String := ["|", "^", "&", "<<", ">>", "+", "-", "*", "/", "//", "%", "@"]

def arithmetic? : List Token → Option (List Token)
  | .symbol s :: rest => if arithmetic.contains s then some rest else none
  | _ => none

/-- A comparison operator in front. -/
def compareOp? : List Token → Option (CompareOp × List Token)
  | .symbol s :: rest =>
    let found : List (String × CompareOp) :=
      [("==", .eq), ("!=", .ne), ("<", .lt), ("<=", .le), (">", .gt), (">=", .ge)]
    (found.lookup s).map fun op => (op, rest)
  | .keyword "in" :: rest => some (.isIn, rest)
  | .keyword "not" :: .keyword "in" :: rest => some (.notIn, rest)
  | .keyword "is" :: .keyword "not" :: rest => some (.notSame, rest)
  | .keyword "is" :: rest => some (.same, rest)
  | _ => none

/-- Operands joined by arithmetic. -/
def operand (rules : Rules) : Parser := fun ts => do
  let (parts, rest) ← joined (rules .factor) arithmetic? (ts.length + 1) ts
  match parts with
  | [part] => some (part, rest)
  | _ => some (.foreign .arithmetic, rest)

/-- The comparisons that follow a first operand; `fuel` bounds their number. -/
def comparisons (rules : Rules) : Nat → List Token → Option (List (CompareOp × Term) × List Token)
  | 0, _ => none
  | fuel + 1, ts =>
    match compareOp? ts with
    | none => some ([], ts)
    | some (op, rest) => do
      let (right, rest) ← operand rules rest
      let (others, rest) ← comparisons rules fuel rest
      some ((op, right) :: others, rest)

def comparison (rules : Rules) : Parser := fun ts => do
  let (left, rest) ← operand rules ts
  let (others, rest) ← comparisons rules (rest.length + 1) rest
  some (if others.isEmpty then left else .compare left others, rest)

/-- Parts joined by a word; a single part stands for itself. -/
def junction (j : Junction) (word : String) (part : Parser) : Parser := fun ts => do
  let (parts, rest) ← joined part (keyword? word) (ts.length + 1) ts
  match parts with
  | [part] => some (part, rest)
  | _ => some (.junction j parts, rest)

def conjunction (rules : Rules) : Parser := junction .all "and" (rules .inversion)

def disjunction (rules : Rules) : Parser := junction .any "or" (conjunction rules)

/-- An expression that may bind a name on the way. -/
def named (rules : Rules) : Parser := fun ts =>
  match ts with
  | .name _ :: .symbol ":=" :: rest => do
    let (_, rest) ← rules .expression rest
    some (.foreign .assignment, rest)
  | _ => do
    let (term, rest) ← rules .expression ts
    if atSymbol ":=" rest then none else some (term, rest)

/-- Whether a binding of a name stands in front, outside parentheses. -/
def atBinding : List Token → Bool
  | .name _ :: .symbol ":=" :: _ => true
  | _ => false

/-- An element with a star, or another element. -/
def starredOr (inner other : Parser) : Parser := fun ts =>
  match symbol? "*" ts with
  | some rest => do
    let (value, rest) ← inner rest
    some (.starred value, rest)
  | none => other ts

/-- The element of a list, a tuple or a set. -/
def element (rules : Rules) : Parser := starredOr (operand rules) (named rules)

/-- The elements that may stand without brackets where a value is expected. -/
def starExpressions (rules : Rules) (isClosing : List Token → Bool) : Parser := fun ts => do
  let (parts, trailing, rest) ←
    elements (starredOr (operand rules) (rules .expression)) isClosing (ts.length + 1) ts
  match parts, trailing with
  | [part], false => some (part, rest)
  | parts, _ => some (.tuple parts, rest)

/-! ### Comprehensions and calls -/

/-- The conditions of a loop clause; `fuel` bounds their number. -/
def conditions (rules : Rules) : Nat → List Token → Option (List Token)
  | 0, _ => none
  | fuel + 1, ts =>
    match keyword? "if" ts with
    | none => some ts
    | some rest => do
      let (_, rest) ← disjunction rules rest
      conditions rules fuel rest

/-- A loop clause begins here. -/
def atFor (ts : List Token) : Bool :=
  atKeyword "for" ts || ((keyword? "async" ts).map (atKeyword "for")).getD false

/-- What a loop clause assigns to: one target, or several with commas. -/
def targets (rules : Rules) : List Token → Option (List Token) := fun ts => do
  let (parts, _, rest) ← elements (starredOr (rules .primary) (rules .primary)) (atKeyword "in")
    (ts.length + 1) ts
  if areTargets parts then some rest else none

/-- The loop clauses of a comprehension, at least one; `fuel` bounds their number. -/
def clauses (rules : Rules) : Nat → List Token → Option (List Token)
  | 0, _ => none
  | fuel + 1, ts => do
    let rest ← keyword? "for" ((keyword? "async" ts).getD ts)
    let rest ← targets rules rest
    let rest ← keyword? "in" rest
    let (_, rest) ← disjunction rules rest
    let rest ← conditions rules (rest.length + 1) rest
    if atFor rest then clauses rules fuel rest else some rest

/-- How far the arguments of a call have come: names after values, and doubled stars after names. -/
inductive Phase where
  | values | names | doubled
  deriving DecidableEq

/-- The arguments of a call up to the closing parenthesis, which is passed over. A comprehension may
stand as the only argument. `fuel` bounds the number of arguments. -/
def arguments (rules : Rules) : Nat → Bool → Phase → List Token → Option (List Token)
  | 0, _, _, _ => none
  | fuel + 1, first, phase, ts =>
    let next (phase : Phase) (rest : List Token) : Option (List Token) :=
      match symbol? "," rest with
      | some rest => arguments rules fuel false phase rest
      | none => symbol? ")" rest
    match ts with
    | .symbol ")" :: rest => some rest
    | .symbol "*" :: rest =>
      if phase = .doubled then none
      else do
        let (_, rest) ← rules .expression rest
        next phase rest
    | .symbol "**" :: rest => do
      let (_, rest) ← rules .expression rest
      next .doubled rest
    | .name _ :: .symbol "=" :: rest => do
      let (_, rest) ← rules .expression rest
      next (if phase = .doubled then .doubled else .names) rest
    | _ =>
      if phase ≠ .values then none
      else do
        let (_, rest) ← named rules ts
        if first && atFor rest then
          let rest ← clauses rules (rest.length + 1) rest
          symbol? ")" rest
        else if atSymbol "=" rest then none
        else next .values rest

/-! ### Atoms -/

/-- Joins the strings that follow one another: all texts or all bytes, and a formatted one makes the
whole formatted. -/
def strings? (isExpression : List Char → Bool) (named : String → Option Char) (parts : List Token) :
    Option Term :=
  let isBytes : Token → Bool
    | .bytes _ => true
    | _ => false
  let wellFormed : Token → Bool
    | .formatted raw body => Formatted.isWellFormed named isExpression raw body
    | _ => true
  let isFormatted : Token → Bool
    | .formatted .. => true
    | _ => false
  if parts.any isBytes then
    if parts.all isBytes then
      some (.constant (.bytes (parts.flatMap fun part => match part with
        | .bytes bs => bs
        | _ => [])))
    else none
  else if !parts.all wellFormed then none
  else if parts.any isFormatted then some (.foreign .formatted)
  else some (.constant (.text (String.ofList (parts.flatMap fun part => match part with
    | .text s => s
    | _ => []))))

def isString : Token → Bool
  | .text _ | .bytes _ | .formatted .. => true
  | _ => false

/-- A value that a generator hands out. -/
def yielded (rules : Rules) (isClosing : List Token → Bool) : Parser := fun ts =>
  match keyword? "from" ts with
  | some rest => do
    let (_, rest) ← rules .expression rest
    some (.foreign .yieldFrom, rest)
  | none =>
    if isClosing ts then some (.foreign .yield, ts)
    else do
      let (_, rest) ← starExpressions rules isClosing ts
      some (.foreign .yield, rest)

/-- What the parameters of a function have shown so far. -/
structure Parameters where
  count : Nat
  slash : Bool
  star : Bool
  /-- A bare star waits for a name. -/
  pending : Bool
  defaulted : Bool

/-- The parameters of a function up to the colon, which is passed over; `fuel` bounds their number. -/
def parameters (rules : Rules) : Nat → Parameters → List Token → Option (List Token)
  | 0, _, _ => none
  | fuel + 1, seen, ts =>
    let next (seen : Parameters) (rest : List Token) : Option (List Token) :=
      match rest with
      | .symbol "," :: rest => parameters rules fuel seen rest
      | .symbol ":" :: _ => parameters rules fuel seen rest
      | _ => none
    match ts with
    | .symbol ":" :: rest => if seen.pending then none else some rest
    | .symbol "/" :: rest =>
      if seen.slash || seen.star || seen.count = 0 then none else next { seen with slash := true } rest
    | .symbol "**" :: .name _ :: rest =>
      if seen.pending then none
      else match rest with
      | .symbol ":" :: rest => some rest
      | .symbol "," :: .symbol ":" :: rest => some rest
      | _ => none
    | .symbol "*" :: .name _ :: rest =>
      if seen.star then none else next { seen with star := true } rest
    | .symbol "*" :: .symbol "," :: rest =>
      if seen.star then none else parameters rules fuel { seen with star := true, pending := true } rest
    | .name _ :: .symbol "=" :: rest => do
      let (_, rest) ← rules .expression rest
      next { seen with count := seen.count + 1, pending := false, defaulted := true } rest
    | .name _ :: rest =>
      if seen.defaulted && !seen.star then none
      else next { seen with count := seen.count + 1, pending := false } rest
    | _ => none

/-- A function without a name, after its keyword. -/
def function (rules : Rules) : Parser := fun ts => do
  let rest ← parameters rules (ts.length + 1) ⟨0, false, false, false, false⟩ ts
  let (_, rest) ← rules .expression rest
  some (.foreign .function, rest)

/-- One bound of a slice, if there is one. -/
def bound (rules : Rules) (ts : List Token) : Option (List Token) :=
  if atSymbol ":" ts || atSymbol "," ts || atSymbol "]" ts then some ts
  else (rules .expression ts).map Prod.snd

/-- A slice after its first colon. -/
def sliceRest (rules : Rules) : Parser := fun ts => do
  let rest ← bound rules ts
  match symbol? ":" rest with
  | some rest =>
    let rest ← bound rules rest
    some (.foreign .slice, rest)
  | none => some (.foreign .slice, rest)

/-- A slice or an index. -/
def index (rules : Rules) : Parser := fun ts =>
  match symbol? ":" ts with
  | some rest => sliceRest rules rest
  | none => do
    let (term, rest) ← named rules ts
    match symbol? ":" rest with
    | some rest => if atBinding ts then none else sliceRest rules rest
    | none => some (term, rest)

/-- The indexes between brackets. -/
def indexes (rules : Rules) : Parser := fun ts => do
  let (parts, trailing, rest) ← elements (starredOr (rules .expression) (index rules))
    (atSymbol "]") (ts.length + 1) ts
  match parts, trailing with
  | [.starred value], false => some (.tuple [.starred value], rest)
  | [part], false => some (part, rest)
  | parts, _ => some (.tuple parts, rest)

/-- The attributes, indexes and calls that follow a term; `fuel` bounds their number. -/
def trailers (rules : Rules) : Nat → Term → List Token → Option (Term × List Token)
  | 0, _, _ => none
  | fuel + 1, term, ts =>
    match ts with
    | .symbol "." :: .name id :: rest => trailers rules fuel (.attribute term id) rest
    | .symbol "." :: _ => none
    | .symbol "(" :: rest => do
      let rest ← arguments rules (rest.length + 1) true .values rest
      trailers rules fuel (.foreign .call) rest
    | .symbol "[" :: rest => do
      let (key, rest) ← indexes rules rest
      let rest ← symbol? "]" rest
      trailers rules fuel (.subscript term key) rest
    | _ => some (term, ts)

/-- What stands in parentheses: nothing, a generator's value, one term, several terms, or a
comprehension. -/
def parenthesised (rules : Rules) : Parser := fun ts =>
  match ts with
  | .symbol ")" :: rest => some (.tuple [], rest)
  | .keyword "yield" :: rest => do
    let (term, rest) ← yielded rules (atSymbol ")") rest
    let rest ← symbol? ")" rest
    some (term, rest)
  | _ => do
    let (first, rest) ← element rules ts
    let isStarred := first matches .starred _
    if atFor rest && !isStarred then
      let rest ← clauses rules (rest.length + 1) rest
      let rest ← symbol? ")" rest
      some (.foreign .generator, rest)
    else match symbol? "," rest with
    | none =>
      let rest ← symbol? ")" rest
      if isStarred then none else some (first, rest)
    | some rest =>
      match symbol? ")" rest with
      | some rest => some (.tuple [first], rest)
      | none =>
        let (others, _, rest) ← elements (element rules) (atSymbol ")") (rest.length + 1) rest
        let rest ← symbol? ")" rest
        some (.tuple (first :: others), rest)

/-- What stands in square brackets: the items of a list, or a comprehension. -/
def bracketed (rules : Rules) : Parser := fun ts =>
  match ts with
  | .symbol "]" :: rest => some (.list [], rest)
  | _ => do
    let (items, trailing, rest) ← elements (element rules) (atSymbol "]") (ts.length + 1) ts
    if atFor rest then
      match items, trailing with
      | [.starred _], _ => none
      | [_], false =>
        let rest ← clauses rules (rest.length + 1) rest
        let rest ← symbol? "]" rest
        some (.foreign .listComprehension, rest)
      | _, _ => none
    else
      let rest ← symbol? "]" rest
      some (.list items, rest)

/-- A pair of a dictionary, or a dictionary that is spread out. -/
def pair (rules : Rules) : Parser := fun ts =>
  match symbol? "**" ts with
  | some rest => do
    let (value, rest) ← operand rules rest
    some (.starred value, rest)
  | none => do
    let (_, rest) ← rules .expression ts
    let rest ← symbol? ":" rest
    rules .expression rest

/-- The rest of a dictionary after its first pair. -/
def dictionaryRest (rules : Rules) : Parser := fun ts => do
  let rest ← match symbol? "," ts with
    | none => some ts
    | some rest =>
      if atSymbol "\x7d" rest then some rest
      else (elements (pair rules) (atSymbol "\x7d") (rest.length + 1) rest).map fun parts => parts.2.2
  let rest ← symbol? "\x7d" rest
  some (.foreign .dict, rest)

/-- The rest of a comprehension in braces from its first loop clause on. -/
def comprehensionRest (rules : Rules) (kind : Foreign) : Parser := fun ts => do
  let rest ← clauses rules (ts.length + 1) ts
  let rest ← symbol? "\x7d" rest
  some (.foreign kind, rest)

/-- The rest of a set after its first element. -/
def setRest (rules : Rules) : Parser := fun ts => do
  let rest ← match symbol? "," ts with
    | none => some ts
    | some rest =>
      if atSymbol "\x7d" rest then some rest
      else (elements (element rules) (atSymbol "\x7d") (rest.length + 1) rest).map fun parts => parts.2.2
  let rest ← symbol? "\x7d" rest
  some (.foreign .set, rest)

/-- What stands in braces: a dictionary, a set, or a comprehension of either. -/
def braced (rules : Rules) : Parser := fun ts =>
  match ts with
  | .symbol "\x7d" :: rest => some (.foreign .dict, rest)
  | .symbol "**" :: _ => do
    let (_, rest) ← pair rules ts
    dictionaryRest rules rest
  | _ => do
    let (first, rest) ← element rules ts
    match symbol? ":" rest with
    | some rest =>
      if atBinding ts || first matches .starred _ then none
      else
        let (_, rest) ← rules .expression rest
        if atFor rest then comprehensionRest rules .dictComprehension rest else dictionaryRest rules rest
    | none =>
      if atFor rest then
        if first matches .starred _ then none else comprehensionRest rules .setComprehension rest
      else setRest rules rest

/-- Whether the field of a formatted string holds an expression. Parentheses around it make its line
ends blanks. -/
def isField (charNamed : String → Option Char) (rules : Rules) (text : List Char) : Bool :=
  ((tokens? charNamed ('(' :: text ++ [')'])).bind (starExpressions rules fun _ => false)).isSome

/-- An atom in front. -/
def atom (charNamed : String → Option Char) (rules : Rules) : Parser := fun ts =>
  match ts with
  | .name id :: rest => some (.name id, rest)
  | .keyword "True" :: rest => some (.constant (.bool true), rest)
  | .keyword "False" :: rest => some (.constant (.bool false), rest)
  | .keyword "None" :: rest => some (.constant .null, rest)
  | .number c :: rest => some (.constant c, rest)
  | .symbol "..." :: rest => some (.constant .ellipsis, rest)
  | .symbol "(" :: rest => parenthesised rules rest
  | .symbol "[" :: rest => bracketed rules rest
  | .symbol "\x7b" :: rest => braced rules rest
  | _ =>
    let strings := ts.takeWhile isString
    if strings.isEmpty then none
    else (strings? (isField charNamed rules) charNamed strings).map fun term =>
      (term, ts.dropWhile isString)

def primary (charNamed : String → Option Char) (rules : Rules) : Parser := fun ts => do
  let (first, rest) ← atom charNamed rules ts
  trailers rules (rest.length + 1) first rest

/-- A term with signs before it, or a power. -/
def factor (rules : Rules) : Parser := fun ts =>
  let signed (op : UnaryOp) (rest : List Token) : Option (Term × List Token) := do
    let (value, rest) ← rules .factor rest
    some (.unary op value, rest)
  match ts with
  | .symbol "-" :: rest => signed .minus rest
  | .symbol "+" :: rest => signed .plus rest
  | .symbol "~" :: rest => signed .invert rest
  | _ => do
    let (base, rest) ← match keyword? "await" ts with
      | some rest => (rules .primary rest).map fun parts => (.foreign .await, parts.2)
      | none => rules .primary ts
    match symbol? "**" rest with
    | some rest =>
      let (_, rest) ← rules .factor rest
      some (.foreign .arithmetic, rest)
    | none => some (base, rest)

/-- A comparison with negations before it. -/
def inversion (rules : Rules) : Parser := fun ts =>
  match keyword? "not" ts with
  | some rest => do
    let (value, rest) ← rules .inversion rest
    some (.unary .not value, rest)
  | none => comparison rules ts

/-- A disjunction, a choice between two, or a function. -/
def expression (rules : Rules) : Parser := fun ts =>
  match keyword? "lambda" ts with
  | some rest => function rules rest
  | none => do
    let (term, rest) ← disjunction rules ts
    match keyword? "if" rest with
    | some rest =>
      let (_, rest) ← disjunction rules rest
      let rest ← keyword? "else" rest
      let (_, rest) ← rules .expression rest
      some (.foreign .conditional, rest)
    | none => some (term, rest)

/-- The rules tied together; `fuel` bounds the depth. -/
def rulesWithin (charNamed : String → Option Char) : Nat → Rules
  | 0 => fun _ _ => none
  | fuel + 1 => fun rule =>
    let rules := rulesWithin charNamed fuel
    match rule with
    | .expression => expression rules
    | .inversion => inversion rules
    | .factor => factor rules
    | .primary => primary charNamed rules

/-- The expressions of a whole text: one, or a tuple of several without brackets. -/
def whole (rules : Rules) : List Token → Option Term := fun ts => do
  let (parts, trailing, rest) ← elements (rules .expression) List.isEmpty (ts.length + 1) ts
  if !rest.isEmpty then none
  else match parts, trailing with
  | [part], false => some part
  | parts, _ => some (.tuple parts)

end Grammar

/-- Parses a text that holds one expression. -/
def parse? (named : String → Option Char) (text : List Char) : Option Term := do
  let ts ← tokens? named text
  Grammar.whole (Grammar.rulesWithin named (4 * text.length + 8)) ts

end TriggerFlow.Expr
