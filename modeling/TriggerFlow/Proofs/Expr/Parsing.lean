import TriggerFlow.Proofs.Expr.Tree

/-!
# How a tree is parsed

The grammar binds a negation less tightly than a comparison. So a tree that is written for the other reading is parsed as
the tree that is read in its place, or not at all. The proof goes through the levels of the grammar: what is read at one
level, and followed by nothing that belongs to the next, is read at that level too.
-/

namespace TriggerFlow.Expr

/-! ### The term of a tree -/

def Leaf.term : Leaf → Term
  | .path head members _ => members.foldl (fun t id => .attribute t id.name) (.name head.name)
  | .number n => .constant n.value
  | .text l => .constant (.text (String.ofList l.value))
  | .bool b => .name (if b then "true" else "false")
  | .null => .name "null"

/-- The parts of a junction, or a term alone. -/
def Term.parts (j : Junction) : Term → List Term
  | .junction k parts => if k = j then parts else [.junction k parts]
  | t => [t]

/-- The term of a tree. A junction goes on with the parts of one of its kind on its left. -/
def Tree.term : Tree → Term
  | .leaf l => l.term
  | .not operand => .unary .not operand.term
  | .compare c left right => .compare left.term [(c.op, right.term)]
  | .both left right => .junction .all (left.term.parts .all ++ [right.term])
  | .either left right => .junction .any (left.term.parts .any ++ [right.term])

/-- The tokens of lexemes. -/
def tokensOf (lexemes : List Lexeme) : List Token := lexemes.map Lexeme.token

/-! ### Where a rule ends -/

/-- What may follow a tree at a level: the end, a closing parenthesis, and the operators that bind less tightly. -/
inductive Follows : Nat → List Token → Prop
  | done {level : Nat} : Follows level []
  | closing {level : Nat} {rest : List Token} : Follows level (.symbol ")" :: rest)
  | either {level : Nat} {rest : List Token} (loose : 1 ≤ level) : Follows level (.keyword "or" :: rest)
  | both {level : Nat} {rest : List Token} (loose : 2 ≤ level) : Follows level (.keyword "and" :: rest)
  | compare {level : Nat} {rest : List Token} (loose : 3 ≤ level) (c : Comparison) :
    Follows level (.symbol c.symbol :: rest)

namespace Follows

variable {level : Nat} {rest : List Token}

theorem mono {more : Nat} (follows : Follows level rest) (le : level ≤ more) : Follows more rest := by
  cases follows with
  | done => exact .done
  | closing => exact .closing
  | either loose => exact .either (loose.trans le)
  | both loose => exact .both (loose.trans le)
  | compare loose c => exact .compare (loose.trans le) c

variable (follows : Follows level rest)

include follows

theorem trailers {rules : Grammar.Rules} (fuel : Nat) (t : Term) :
    Grammar.trailers rules (fuel + 1) t rest = some (t, rest) := by
  cases follows with
  | compare _ c => cases c <;> rfl
  | done | closing | either | both => rfl

theorem power : Grammar.symbol? "**" rest = none := by
  cases follows with
  | compare _ c => cases c <;> rfl
  | done | closing | either | both => rfl

theorem arithmetic? : Grammar.arithmetic? rest = none := by
  cases follows with
  | compare _ c => cases c <;> rfl
  | done | closing | either | both => rfl

theorem isString : rest.takeWhile Grammar.isString = [] ∧ rest.dropWhile Grammar.isString = rest := by
  cases follows with
  | compare _ c => exact ⟨rfl, rfl⟩
  | done | closing | either | both => exact ⟨rfl, rfl⟩

theorem compareOp? (tight : level < 3) : Grammar.compareOp? rest = none := by
  cases follows with
  | compare loose c => omega
  | done | closing | either | both => rfl

theorem and? (tight : level < 2) : Grammar.keyword? "and" rest = none := by
  cases follows with
  | both loose => omega
  | compare | done | closing | either => rfl

theorem or? (tight : level < 1) : Grammar.keyword? "or" rest = none := by
  cases follows with
  | either loose => omega
  | compare | done | closing | both => rfl

theorem if? : Grammar.keyword? "if" rest = none := by
  cases follows with
  | compare | done | closing | either | both => rfl

end Follows

/-! ### Leaves -/

section Leaves

variable {named : String → Option Char} {rules : Grammar.Rules} {rest : List Token}

theorem trailers_members (follows : Follows 3 rest) (members : List Identifier) : ∀ (fuel : Nat) (t : Term),
    members.length < fuel →
      Grammar.trailers rules fuel t (tokensOf (members.flatMap fun id => [.dot, .name id]) ++ rest) =
        some (members.foldl (fun t id => .attribute t id.name) t, rest) := by
  induction members with
  | nil =>
    rintro (- | fuel) t enough
    · cases enough
    · exact follows.trailers fuel t
  | cons id members ih =>
    rintro (- | fuel) t enough
    · cases enough
    · exact ih fuel (.attribute t id.name) (by simpa using enough)

/-- A leaf is read as its term. -/
theorem primary_leaf (follows : Follows 3 rest) (l : Leaf) :
    Grammar.primary named rules (tokensOf l.lexemes ++ rest) = some (l.term, rest) := by
  cases l with
  | path head members _ =>
    refine trailers_members follows members _ (.name head.name) ?_
    have more : (members.flatMap fun id => [Lexeme.dot, .name id]).length = members.length * 2 := by
      simp [List.length_flatMap]
    simp only [List.append_eq, List.length_append, List.length_map]
    omega
  | number n => exact follows.trailers _ _
  | bool b => cases b <;> exact follows.trailers _ _
  | null => exact follows.trailers _ _
  | text l =>
    obtain ⟨no, stays⟩ := follows.isString
    have taken : (Token.text l.value :: rest).takeWhile Grammar.isString = [.text l.value] := by
      rw [List.takeWhile_cons_of_pos rfl, no]
    have dropped : (Token.text l.value :: rest).dropWhile Grammar.isString = rest := by
      rw [List.dropWhile_cons_of_pos rfl, stays]
    have read : Grammar.atom named rules (.text l.value :: rest) =
        some (.constant (.text (String.ofList l.value)), rest) := by
      change (if ((Token.text l.value :: rest).takeWhile Grammar.isString).isEmpty then none
        else (Grammar.strings? (Grammar.isField named rules) named
          ((Token.text l.value :: rest).takeWhile Grammar.isString)).map fun t =>
            (t, (Token.text l.value :: rest).dropWhile Grammar.isString)) = _
      rw [taken, dropped]
      simp [Grammar.strings?]
    exact (congrArg (Option.bind · _) read).trans (follows.trailers _ _)

end Leaves

/-! ### From level to level -/

/-- The outcome of a rule: the term of a tree and what is left, or nothing. -/
def outcome (rest : List Token) (read : Option Tree) : Option (Term × List Token) := read.map fun t => (t.term, rest)

section Joining

variable {operand : Parser} {separator : List Token → Option (List Token)} {fuel : Nat} {ts rest : List Token}
  {read : Option Tree}

theorem joined_last (reads : operand ts = outcome rest read) (ends : separator rest = none) :
    Grammar.joined operand separator (fuel + 1) ts = read.map fun t => ([t.term], rest) := by
  rw [Grammar.joined, reads]
  cases read with
  | none => rfl
  | some t => simp [outcome, ends]

theorem joined_next {more : List Token} (reads : operand ts = outcome rest read) (goesOn : separator rest = some more) :
    Grammar.joined operand separator (fuel + 1) ts = read.bind fun t =>
      (Grammar.joined operand separator fuel more).map fun parts => (t.term :: parts.1, parts.2) := by
  rw [Grammar.joined, reads]
  cases read with
  | none => rfl
  | some t =>
    simp only [outcome, Option.map_some, Option.bind_eq_bind, Option.bind_some, goesOn]
    exact (Option.map_eq_bind ..).symm

end Joining

variable {named : String → Option Char}

-- Between one expression and another in parentheses lie four rules, each of which takes one unit of fuel. So four units
-- for every lexeme are enough, and a rule that has come so far needs so many less.

/-- The rules, given fuel. -/
abbrev rulesAt (named : String → Option Char) (fuel : Nat) : Grammar.Rules := Grammar.rulesWithin named fuel

/-- Lexemes that are read as a term that nothing binds. -/
def ReadsPrimary (named : String → Option Char) (lexemes : List Lexeme) (read : Option Tree) : Prop :=
  ∀ fuel rest, 4 * lexemes.length ≤ fuel + 3 → Follows 3 rest →
    rulesAt named fuel .primary (tokensOf lexemes ++ rest) = outcome rest read

/-- Lexemes that are read as a comparison with negations before it. -/
def ReadsInversion (named : String → Option Char) (lexemes : List Lexeme) (read : Option Tree) : Prop :=
  ∀ fuel rest, 4 * lexemes.length ≤ fuel + 1 → Follows 2 rest →
    rulesAt named fuel .inversion (tokensOf lexemes ++ rest) = outcome rest read

/-- Lexemes that are read as an expression. -/
def ReadsExpression (named : String → Option Char) (lexemes : List Lexeme) (read : Option Tree) : Prop :=
  ∀ fuel rest, 4 * lexemes.length ≤ fuel → Follows 0 rest →
    rulesAt named fuel .expression (tokensOf lexemes ++ rest) = outcome rest read

section Heads

variable {rules : Grammar.Rules} {l : Lexeme} {more : List Token}

theorem factor_of_opens (opens : l.opens = true) (other : l ≠ .not) :
    Grammar.factor rules (l.token :: more) = (rules .primary (l.token :: more)).bind fun parts =>
      match Grammar.symbol? "**" parts.2 with
      | some rest => (rules .factor rest).bind fun power => some (.foreign .arithmetic, power.2)
      | none => some parts := by
  cases l with
  | not => exact absurd rfl other
  | name | number | text | opening => rfl
  | dot | closing | both | either | compare => cases opens

theorem inversion_of_opens (opens : l.opens = true) (other : l ≠ .not) :
    Grammar.inversion rules (l.token :: more) = Grammar.comparison rules (l.token :: more) := by
  cases l with
  | not => exact absurd rfl other
  | name | number | text | opening => rfl
  | dot | closing | both | either | compare => cases opens

theorem expression_of_opens (opens : l.opens = true) :
    Grammar.expression rules (l.token :: more) = (Grammar.disjunction rules (l.token :: more)).bind fun parts =>
      match Grammar.keyword? "if" parts.2 with
      | some rest => (Grammar.disjunction rules rest).bind fun condition =>
        (Grammar.keyword? "else" condition.2).bind fun rest =>
          (rules .expression rest).bind fun other => some (.foreign .conditional, other.2)
      | none => some parts := by
  cases l with
  | name | number | text | opening | not => rfl
  | dot | closing | both | either | compare => cases opens

/-- No lexeme is the sign of a binding. -/
theorem atBinding_lexeme (l : Lexeme) : Grammar.atSymbol ":=" (l.token :: more) = false := by
  cases l with
  | compare c => cases c <;> rfl
  | name | number | text | dot | opening | closing | not | both | either => rfl

theorem element_of_opens (opens : l.opens = true) (unbound : Grammar.atSymbol ":=" more = false) :
    Grammar.element rules (l.token :: more) = (rules .expression (l.token :: more)).bind fun parts =>
      if Grammar.atSymbol ":=" parts.2 then none else some parts := by
  cases l with
  | name id =>
    change Grammar.named rules (.name id.name :: more) = _
    rw [Grammar.named]
    · rfl
    · rintro _ rest ⟨⟩
      cases unbound
  | number | text | opening | not => rfl
  | dot | closing | both | either | compare => cases opens

end Heads

/-! ### The head of what is written -/

/-- Lexemes whose first begins an operand without a negation. -/
def Plainly (lexemes : List Lexeme) : Prop := ∃ l more, lexemes = l :: more ∧ l.opens = true ∧ l ≠ .not

theorem Operand.eq_cons {lexemes : List Lexeme} (operand : Operand lexemes) :
    ∃ l more, lexemes = l :: more ∧ l.opens = true := by
  obtain ⟨l, head, opens⟩ := operand.opens
  obtain ⟨more, is⟩ := List.head?_eq_some_iff.mp head
  exact ⟨l, more, is, opens⟩

theorem token_of_opens {l : Lexeme} (opens : l.opens = true) : l.token ≠ .symbol ")" ∧ l.token ≠ .keyword "yield" := by
  cases l with
  | name | number | text | opening | not => exact ⟨by simp [Lexeme.token], by simp [Lexeme.token]⟩
  | dot | closing | both | either | compare => cases opens

/-- Behind its negations a tree begins plainly. -/
theorem Tree.plainly_core (t : Tree) : Plainly (t.core.lexemesAt 3) := by
  induction t with
  | leaf l => cases l <;> exact ⟨_, _, rfl, rfl, nofun⟩
  | not operand ih => exact ih
  | compare | both | either => exact ⟨_, _, rfl, rfl, nofun⟩

section Lifts

variable {named : String → Option Char} {lexemes : List Lexeme} {read : Option Tree} {fuel : Nat} {rest : List Token}

theorem ReadsPrimary.operand (reads : ReadsPrimary named lexemes read) (plainly : Plainly lexemes)
    (enough : 4 * lexemes.length ≤ fuel + 2) (follows : Follows 3 rest) :
    Grammar.operand (rulesAt named fuel) (tokensOf lexemes ++ rest) = outcome rest read := by
  obtain ⟨l, more, rfl, opens, other⟩ := plainly
  obtain - | fuel := fuel
  · simp only [List.length_cons] at enough
    omega
  have primary := reads fuel rest (by omega) follows
  have factor : rulesAt named (fuel + 1) .factor (tokensOf (l :: more) ++ rest) = outcome rest read := by
    change Grammar.factor (rulesAt named fuel) (l.token :: (tokensOf more ++ rest)) = _
    rw [factor_of_opens opens other]
    change (rulesAt named fuel .primary (tokensOf (l :: more) ++ rest)).bind _ = _
    rw [primary]
    cases read with
    | none => rfl
    | some t => simp only [outcome, Option.map_some, Option.bind_some, follows.power]
  rw [Grammar.operand, joined_last factor follows.arithmetic?]
  cases read <;> rfl

/-- Nothing that binds is between a negation and an operand. -/
theorem operand_not (more : List Token) : Grammar.operand (rulesAt named fuel) (.keyword "not" :: more) = none := by
  have none : rulesAt named fuel .factor (.keyword "not" :: more) = none := by
    obtain - | - | - | fuel := fuel <;> rfl
  rw [Grammar.operand, Grammar.joined, none]
  rfl

theorem ReadsPrimary.inversion (reads : ReadsPrimary named lexemes read) (plainly : Plainly lexemes) :
    ReadsInversion named lexemes read := by
  intro fuel rest enough follows
  have operand (fuel : Nat) (le : 4 * lexemes.length ≤ fuel + 2) :
      Grammar.operand (rulesAt named fuel) (tokensOf lexemes ++ rest) = outcome rest read :=
    reads.operand plainly le (follows.mono (by decide))
  obtain ⟨l, more, rfl, opens, other⟩ := plainly
  obtain - | fuel := fuel
  · simp only [List.length_cons] at enough
    omega
  change Grammar.inversion (rulesAt named fuel) (l.token :: (tokensOf more ++ rest)) = _
  rw [inversion_of_opens opens other]
  change Grammar.comparison (rulesAt named fuel) (tokensOf (l :: more) ++ rest) = _
  rw [Grammar.comparison, operand fuel (by omega)]
  cases read with
  | none => rfl
  | some t =>
    simp only [outcome, Option.map_some, Option.bind_eq_bind, Option.bind_some, Grammar.comparisons,
      follows.compareOp? (by decide)]
    rfl

/-- Negations in front of what is read negate it. -/
theorem ReadsInversion.negated (reads : ReadsInversion named lexemes read) : ∀ count : Nat,
    ReadsInversion named (List.replicate count .not ++ lexemes) (read.map (Tree.negated count)) := by
  intro count
  induction count with
  | zero => simpa [Tree.negated] using reads
  | succ count ih =>
    intro fuel rest enough follows
    rw [List.replicate_succ, List.cons_append] at enough ⊢
    obtain - | fuel := fuel
    · simp only [List.length_cons] at enough
      omega
    have inner := ih fuel rest (by simp only [List.length_cons] at enough; omega) follows
    change ((rulesAt named fuel .inversion (tokensOf (List.replicate count .not ++ lexemes) ++ rest)).bind fun parts =>
      some (Term.unary .not parts.1, parts.2)) = _
    rw [inner]
    cases read <;> rfl

/-- Two operands with a comparison between them. -/
theorem ReadsPrimary.compared {others : List Lexeme} {right : Option Tree} (reads : ReadsPrimary named lexemes read)
    (plainly : Plainly lexemes) (c : Comparison)
    (operand : ∀ {fuel rest}, 4 * others.length ≤ fuel + 2 → Follows 3 rest →
      Grammar.operand (rulesAt named fuel) (tokensOf others ++ rest) = outcome rest right) :
    ReadsInversion named (lexemes ++ .compare c :: others)
      (right.bind fun right => read.map fun left => .compare c left right) := by
  intro fuel rest enough follows
  rw [List.length_append, List.length_cons] at enough
  have first (fuel : Nat) (le : 4 * lexemes.length ≤ fuel + 2) :
      Grammar.operand (rulesAt named fuel) (tokensOf lexemes ++ .symbol c.symbol :: (tokensOf others ++ rest)) =
        outcome (.symbol c.symbol :: (tokensOf others ++ rest)) read :=
    reads.operand plainly le (.compare (by decide) c)
  obtain ⟨l, more, rfl, opens, other⟩ := plainly
  obtain - | fuel := fuel
  · simp only [List.length_cons] at enough
    omega
  have written : tokensOf (l :: more ++ .compare c :: others) ++ rest =
      tokensOf (l :: more) ++ .symbol c.symbol :: (tokensOf others ++ rest) := by simp [tokensOf, Lexeme.token]
  -- the right operand is read last, but a reading that fails anywhere fails as a whole
  have found (more : List Token) : Grammar.compareOp? (.symbol c.symbol :: more) = some (c.op, more) := by
    cases c <;> rfl
  have second : Grammar.operand (rulesAt named fuel) (tokensOf others ++ rest) = outcome rest right :=
    operand (by omega) (follows.mono (by decide))
  rw [written]
  change Grammar.inversion (rulesAt named fuel) (l.token :: (tokensOf more ++ _)) = _
  rw [inversion_of_opens opens other]
  change Grammar.comparison (rulesAt named fuel) (tokensOf (l :: more) ++ _) = _
  rw [Grammar.comparison, first fuel (by omega)]
  cases read with
  | none => cases right <;> rfl
  | some left =>
    simp only [outcome, Option.map_some, Option.bind_eq_bind, Option.bind_some, List.length_cons,
      Grammar.comparisons, found, second]
    cases right with
    | none => rfl
    | some right =>
      simp only [Option.map_some, Option.bind_some, follows.compareOp? (by decide)]
      rfl

end Lifts

end TriggerFlow.Expr
