import TriggerFlow.Expr.Eval
import TriggerFlow.Proofs.Expr.Lexing

/-!
# Expression trees

An expression of the first family of spellings as a tree, and how it is written there: negations bind tighter than
comparisons, these tighter than conjunctions, and these tighter than disjunctions; parentheses stand where a tree needs
them and nowhere else. The words that are put in for the operators bind otherwise in one place, because a negation in
words takes in the comparison that follows it.
-/

namespace TriggerFlow.Expr

/-! ### Trees and their values -/

namespace Identifier

def true_ : Identifier := ⟨'t', "rue".toList, by decide, by simp, by decide⟩

def false_ : Identifier := ⟨'f', "alse".toList, by decide, by simp, by decide⟩

def null : Identifier := ⟨'n', "ull".toList, by decide, by simp, by decide⟩

end Identifier

/-- What an operator is applied to in the end: a path to a field, or a literal. A path is not spelled like a literal. -/
inductive Leaf where
  | path (head : Identifier) (members : List Identifier)
    (field : members = [] → head.name ≠ "true" ∧ head.name ≠ "false" ∧ head.name ≠ "null")
  | number (n : Numeral)
  | text (l : Literal)
  | bool (b : Bool)
  | null

/-- An expression. -/
inductive Tree where
  | leaf (l : Leaf)
  | not (operand : Tree)
  | compare (c : Comparison) (left right : Tree)
  | both (left right : Tree)
  | either (left right : Tree)

/-- The value of the field of that name, or what stands in for it if there is none. -/
def fieldValue (context : Members) (name : String) (otherwise : Value) : Value :=
  match context.get? name with
  | some datum => .ofJson datum
  | none => otherwise

/-- The value of a leaf. A field that is not there is null; one that is named like a literal comes before the literal. -/
def Leaf.value (context : Members) : Leaf → Value
  | .path head members _ =>
    members.foldl (fun value id => lookUp value (.text id.name)) (fieldValue context head.name .null)
  | .number n => n.value.value
  | .text l => .text (String.ofList l.value)
  | .bool b => fieldValue context (if b then "true" else "false") (.bool b)
  | .null => fieldValue context "null" .null

/-- The value of a tree, node by node. An operator gives a truth value, and a junction looks no further than it must. -/
def Tree.value (context : Members) : Tree → Except EvalFault Value
  | .leaf l => .ok (l.value context)
  | .not operand => do
    let v ← operand.value context
    .ok (.bool (!v.isTruthy))
  | .compare c left right => do
    let v ← left.value context
    let w ← right.value context
    let b ← compareBy c.op v w
    .ok (.bool b)
  | .both left right => do
    let v ← left.value context
    if v.isTruthy then
      let w ← right.value context
      .ok (.bool w.isTruthy)
    else .ok (.bool false)
  | .either left right => do
    let v ← left.value context
    if v.isTruthy then .ok (.bool true)
    else
      let w ← right.value context
      .ok (.bool w.isTruthy)

/-! ### How a tree is written -/

def Leaf.lexemes : Leaf → List Lexeme
  | .path head members _ => .name head :: members.flatMap fun id => [.dot, .name id]
  | .number n => [.number n]
  | .text l => [.text l]
  | .bool b => [.name (if b then .true_ else .false_)]
  | .null => [.name .null]

/-- How tightly the operator of a tree binds. -/
def Tree.level : Tree → Nat
  | .either .. => 0
  | .both .. => 1
  | .compare .. => 2
  | .not _ => 3
  | .leaf _ => 3

/-- Parentheses around a tree that binds less tightly than its place needs. -/
def Tree.enclosed (needed : Nat) (t : Tree) (written : List Lexeme) : List Lexeme :=
  if t.level < needed then .opening :: (written ++ [.closing]) else written

/-- A tree as it is written. A second comparison, and a junction on the right of one of its kind, need parentheses. -/
def Tree.lexemes : Tree → List Lexeme
  | .leaf l => l.lexemes
  | .not operand => .not :: operand.enclosed 3 operand.lexemes
  | .compare c left right => left.enclosed 3 left.lexemes ++ .compare c :: right.enclosed 3 right.lexemes
  | .both left right => left.enclosed 1 left.lexemes ++ .both :: right.enclosed 2 right.lexemes
  | .either left right => left.lexemes ++ .either :: right.enclosed 1 right.lexemes

/-- A tree as it is written where something as tight is needed. -/
def Tree.lexemesAt (needed : Nat) (t : Tree) : List Lexeme := t.enclosed needed t.lexemes

/-! ### How it is read -/

def Tree.isNot : Tree → Bool
  | .not _ => true
  | _ => false

/-- The tree that is read in the place of one that is written, with something made of it beneath its negations: those in
front of a comparison negate it as a whole, and none may stand on its right. -/
def Tree.readWith (make : Tree → Tree) : Tree → Option Tree
  | .leaf l => some (make (.leaf l))
  | .not operand => (operand.readWith make).map .not
  | .compare c left right =>
    if right.isNot then none
    else do
      let right' ← right.readWith id
      (left.readWith fun left' => .compare c left' right').map make
  | .both left right => do
    let left' ← left.readWith id
    let right' ← right.readWith id
    some (make (.both left' right'))
  | .either left right => do
    let left' ← left.readWith id
    let right' ← right.readWith id
    some (make (.either left' right'))

/-- The tree that is read in the place of one that is written. -/
def Tree.read? (t : Tree) : Option Tree := t.readWith id

/-- No comparison has a negation for an operand. -/
def Tree.Unnegated : Tree → Prop
  | .leaf _ => True
  | .not operand => operand.Unnegated
  | .compare _ left right => (left.isNot = false ∧ right.isNot = false) ∧ left.Unnegated ∧ right.Unnegated
  | .both left right | .either left right => left.Unnegated ∧ right.Unnegated

namespace Tree

/-- Without negations on either side of a comparison, a tree is read as it is written. -/
theorem read?_of_unnegated (t : Tree) (unnegated : t.Unnegated) : t.read? = some t := by
  -- the operand of a comparison is read with the comparison made of it, so both readings go through the induction
  have reads : (∀ make, t.isNot = false → t.readWith make = some (make t)) ∧ t.read? = some t := by
    induction t with
    | leaf l => exact ⟨fun _ _ => rfl, rfl⟩
    | not operand ih =>
      refine ⟨nofun, ?_⟩
      rw [read?, readWith, show operand.readWith id = some operand from (ih unnegated).2]
      rfl
    | compare c left right ihLeft ihRight =>
      obtain ⟨⟨plainLeft, plainRight⟩, left', right'⟩ := unnegated
      have both (make : Tree → Tree) :
          (Tree.compare c left right).readWith make = some (make (.compare c left right)) := by
        rw [readWith, if_neg (by simp [plainRight]), show right.readWith id = some right from (ihRight right').2,
          Option.bind_eq_bind, Option.bind_some, (ihLeft left').1 _ plainLeft]
        rfl
      exact ⟨fun make _ => both make, both id⟩
    | both left right ihLeft ihRight | either left right ihLeft ihRight =>
      have left' : left.readWith id = some left := (ihLeft unnegated.1).2
      have right' : right.readWith id = some right := (ihRight unnegated.2).2
      exact ⟨fun make _ => by rw [readWith, left', right']; rfl, by rw [read?, readWith, left', right']; rfl⟩
  exact reads.2

/-! ### Negations in front -/

/-- A tree without the negations in front. -/
def core : Tree → Tree
  | .not operand => operand.core
  | t => t

/-- How many negations stand in front. -/
def negations : Tree → Nat
  | .not operand => operand.negations + 1
  | _ => 0

/-- A tree behind so many negations. -/
def negated : Nat → Tree → Tree
  | 0, t => t
  | n + 1, t => .not (negated n t)

theorem isNot_core (t : Tree) : t.core.isNot = false := by
  induction t with
  | not operand ih => exact ih
  | leaf | compare | both | either => rfl

theorem lexemesAt_core (t : Tree) :
    t.lexemesAt 3 = List.replicate t.negations .not ++ t.core.lexemesAt 3 := by
  induction t with
  | not operand ih => exact congrArg _ ih
  | leaf | compare | both | either => rfl

theorem readWith_core (t : Tree) (make : Tree → Tree) :
    t.readWith make = (t.core.readWith make).map (negated t.negations) := by
  induction t with
  | not operand ih =>
    rw [readWith, ih, Option.map_map]
    rfl
  | leaf | compare | both | either => exact Option.map_id'.symm

theorem readWith_of_not_isNot {t : Tree} (plain : t.isNot = false) (make : Tree → Tree) :
    t.readWith make = t.read?.map make := by
  cases t with
  | not => cases plain
  | leaf => rfl
  | compare c left right =>
    rw [read?, readWith, readWith]
    split
    · rfl
    · cases right.readWith id with
      | none => rfl
      | some right' => simp only [Option.bind_eq_bind, Option.bind_some, Option.map_id, id_eq]
  | both left right | either left right =>
    rw [read?, readWith, readWith]
    cases left.readWith id with
    | none => rfl
    | some left' => cases right.readWith id <;> rfl

end Tree

/-! ### What is written can be spelled -/

/-- Lexemes of which each meets the next, from the beginning of an operand to the end of one. -/
structure Operand (lexemes : List Lexeme) : Prop where
  meets : lexemes.IsChain Lexeme.Meets
  opens : ∃ l, lexemes.head? = some l ∧ l.opens = true
  shuts : ∃ l, lexemes.getLast? = some l ∧ l.shuts = true

namespace Operand

variable {lexemes others : List Lexeme} {l : Lexeme}

theorem ne_nil (operand : Operand lexemes) : lexemes ≠ [] := by
  rintro rfl
  obtain ⟨l, none, -⟩ := operand.opens
  cases none

theorem single (opens : l.opens = true) (shuts : l.shuts = true) : Operand [l] :=
  ⟨.singleton l, ⟨l, rfl, opens⟩, ⟨l, rfl, shuts⟩⟩

theorem cons_not (operand : Operand lexemes) : Operand (.not :: lexemes) := by
  obtain ⟨last, tail, shuts⟩ := operand.shuts
  obtain ⟨first, head, opens⟩ := operand.opens
  refine ⟨List.isChain_cons.mpr ⟨fun next front => ?_, operand.meets⟩, ⟨.not, rfl, rfl⟩, last, ?_, shuts⟩
  · rw [head] at front
    exact Lexeme.meets_of_opens rfl nofun (Option.some.inj front ▸ opens)
  · rw [List.getLast?_cons, tail]
    rfl

/-- Two operands with an operator between them. -/
theorem join (left : Operand lexemes) (right : Operand others) (opens : l.opens = false) (shuts : l.shuts = false)
    (dot : l ≠ .dot) : Operand (lexemes ++ l :: others) := by
  obtain ⟨leftLast, leftTail, leftShuts⟩ := left.shuts
  obtain ⟨first, head, firstOpens⟩ := left.opens
  obtain ⟨next, rightHead, rightOpens⟩ := right.opens
  obtain ⟨last, tail, lastShuts⟩ := right.shuts
  have after : (l :: others).IsChain Lexeme.Meets := by
    refine List.isChain_cons.mpr ⟨fun m front => ?_, right.meets⟩
    rw [rightHead] at front
    exact Lexeme.meets_of_opens shuts dot (Option.some.inj front ▸ rightOpens)
  refine ⟨List.isChain_append.mpr ⟨left.meets, after, fun m back n front => ?_⟩, ⟨first, ?_, firstOpens⟩,
    last, ?_, lastShuts⟩
  · rw [leftTail] at back
    obtain rfl := Option.some.inj back
    obtain rfl := Option.some.inj front
    exact Lexeme.meets_of_shuts leftShuts opens fun _ _ => dot
  · rw [List.head?_append, head]
    rfl
  · rw [List.getLast?_append, List.getLast?_cons, tail]
    rfl

theorem parenthesised (operand : Operand lexemes) : Operand (.opening :: (lexemes ++ [.closing])) := by
  obtain ⟨first, head, opens⟩ := operand.opens
  obtain ⟨last, tail, shuts⟩ := operand.shuts
  refine ⟨List.isChain_cons.mpr ⟨fun next front => ?_, ?_⟩, ⟨.opening, rfl, rfl⟩, .closing, ?_, rfl⟩
  · rw [List.head?_append, head] at front
    exact Lexeme.meets_of_opens rfl nofun (Option.some.inj front ▸ opens)
  · refine List.isChain_append.mpr ⟨operand.meets, .singleton _, fun m back n front => ?_⟩
    rw [tail] at back
    obtain rfl := Option.some.inj back
    obtain rfl := Option.some.inj front
    exact Lexeme.meets_of_shuts shuts rfl nofun
  · rw [← List.cons_append, List.getLast?_append]
    rfl

/-- A name with members after it. -/
theorem path (members : List Identifier) :
    ∀ head : Identifier, Operand (.name head :: members.flatMap fun id => [.dot, .name id]) := by
  induction members with
  | nil => exact fun head => single rfl rfl
  | cons id members ih =>
    intro head
    obtain ⟨meets, -, last, tail, shuts⟩ := ih id
    refine ⟨?_, ⟨.name head, rfl, rfl⟩, last, ?_, shuts⟩
    · refine List.isChain_cons.mpr ⟨?_, List.isChain_cons.mpr ⟨?_, meets⟩⟩
      · rintro next ⟨⟩
        exact Lexeme.meets_of_shuts rfl rfl nofun
      · rintro next ⟨⟩
        exact Lexeme.meets_dot id
    · rw [List.flatMap_cons, List.cons_append, List.cons_append, List.nil_append, List.getLast?_cons_cons,
        List.getLast?_cons_cons, tail]

end Operand

namespace Tree

theorem operand_of_enclosed {needed : Nat} {t : Tree} (operand : Operand t.lexemes) : Operand (t.lexemesAt needed) := by
  rw [lexemesAt, enclosed]
  split
  · exact operand.parenthesised
  · exact operand

/-- A tree is written as an operand. -/
theorem operand (t : Tree) : Operand t.lexemes := by
  induction t with
  | leaf l =>
    cases l with
    | path head members _ => exact .path members head
    | number | text | bool | null => exact .single rfl rfl
  | not operand ih => exact (operand_of_enclosed ih).cons_not
  | compare c left right ihLeft ihRight =>
    exact (operand_of_enclosed ihLeft).join (operand_of_enclosed ihRight) rfl rfl nofun
  | both left right ihLeft ihRight =>
    exact (operand_of_enclosed ihLeft).join (operand_of_enclosed ihRight) rfl rfl nofun
  | either left right ihLeft ihRight => exact ihLeft.join (operand_of_enclosed ihRight) rfl rfl nofun

end Tree

/-! ### Brackets -/

/-- Lexemes whose parentheses match, and go no deeper than this. -/
def Balanced (depth : Nat) (lexemes : List Lexeme) : Prop := ∀ brackets : List Char,
  brackets.length + depth ≤ Lexer.maxDepth →
    (lexemes.map Lexeme.token).foldlM Lexer.afterToken? brackets = some brackets

namespace Balanced

variable {depth more : Nat} {lexemes others : List Lexeme}

theorem nil : Balanced 0 [] := fun _ _ => rfl

theorem mono (balanced : Balanced depth lexemes) (le : depth ≤ more) : Balanced more lexemes :=
  fun brackets within => balanced brackets (by omega)

theorem append (left : Balanced depth lexemes) (right : Balanced depth others) : Balanced depth (lexemes ++ others) := by
  intro brackets within
  rw [List.map_append, List.foldlM_append, left brackets within]
  exact right brackets within

/-- Whatever is no parenthesis. -/
theorem single {l : Lexeme} (opening : l ≠ .opening) (closing : l ≠ .closing) : Balanced 0 [l] := by
  intro brackets _
  cases l with
  | opening => exact absurd rfl opening
  | closing => exact absurd rfl closing
  | compare c => cases c <;> rfl
  | name | number | text | dot | not | both | either => rfl

theorem members (ids : List Identifier) : Balanced 0 (ids.flatMap fun id => [.dot, .name id]) := by
  induction ids with
  | nil => exact .nil
  | cons id ids ih =>
    exact (single (l := .dot) nofun nofun).append ((single (l := .name id) nofun nofun).append ih)

theorem parenthesised (balanced : Balanced depth lexemes) :
    Balanced (depth + 1) (.opening :: (lexemes ++ [.closing])) := by
  intro brackets within
  have opened : Lexer.afterToken? brackets (.symbol "(") = some ('(' :: brackets) := by
    have room : ¬ Lexer.maxDepth ≤ brackets.length := by omega
    exact if_neg room
  have inside := balanced ('(' :: brackets) (by simp; omega)
  rw [List.map_cons, List.foldlM_cons, List.map_append]
  show (Lexer.afterToken? brackets (.symbol "(")).bind _ = _
  rw [opened, Option.bind_some, List.foldlM_append, inside]
  rfl

end Balanced

namespace Tree

/-- Lexemes whose parentheses match, and go no deeper than a fourth of them, with some to spare. -/
def Shallow (spare : Nat) (lexemes : List Lexeme) : Prop :=
  ∃ depth, Balanced depth lexemes ∧ 4 * depth + spare ≤ lexemes.length

theorem shallow_of_enclosed {needed : Nat} {t : Tree} (within : needed ≤ 3)
    (shallow : Shallow (if t.level < 3 then 3 else 1) t.lexemes) : Shallow 1 (t.lexemesAt needed) := by
  obtain ⟨depth, balanced, deep⟩ := shallow
  rw [lexemesAt, enclosed]
  split
  · rename_i loose
    rw [if_pos (by omega)] at deep
    exact ⟨depth + 1, balanced.parenthesised, by simp; omega⟩
  · exact ⟨depth, balanced, by split at deep <;> omega⟩

theorem Shallow.join {lexemes others : List Lexeme} {l : Lexeme} (left : Shallow 1 lexemes) (right : Shallow 1 others)
    (opening : l ≠ .opening) (closing : l ≠ .closing) : Shallow 3 (lexemes ++ l :: others) := by
  obtain ⟨depth, balanced, deep⟩ := left
  obtain ⟨depth', balanced', deep'⟩ := right
  refine ⟨max depth depth', ?_, by simp; omega⟩
  have operator : Balanced (max depth depth') [l] := (Balanced.single opening closing).mono (Nat.zero_le _)
  exact (balanced.mono (Nat.le_max_left ..)).append (operator.append (balanced'.mono (Nat.le_max_right ..)))

theorem Shallow.mono {spare less : Nat} {lexemes : List Lexeme} (shallow : Shallow spare lexemes) (le : less ≤ spare) :
    Shallow less lexemes := by
  obtain ⟨depth, balanced, deep⟩ := shallow
  exact ⟨depth, balanced, by omega⟩

/-- The parentheses of a tree match, and nest less deep than there is room for in a short expression. -/
theorem shallow (t : Tree) : Shallow (if t.level < 3 then 3 else 1) t.lexemes := by
  induction t with
  | leaf l =>
    cases l with
    | path head members _ =>
      have balanced : Balanced 0 (.name head :: members.flatMap fun id => [.dot, .name id]) :=
        (Balanced.single (l := .name head) nofun nofun).append (.members members)
      exact ⟨0, balanced, Nat.succ_le_succ (Nat.zero_le _)⟩
    | number | text | bool | null => exact ⟨0, .single nofun nofun, Nat.le_refl _⟩
  | not operand ih =>
    obtain ⟨depth, balanced, deep⟩ := shallow_of_enclosed (Nat.le_refl 3) ih
    have negation : Balanced depth [.not] := (Balanced.single (l := .not) nofun nofun).mono (Nat.zero_le _)
    exact ⟨depth, negation.append balanced, Nat.le_succ_of_le deep⟩
  | compare c left right ihLeft ihRight =>
    exact (shallow_of_enclosed (by decide) ihLeft).join (shallow_of_enclosed (by decide) ihRight) nofun nofun
  | both left right ihLeft ihRight =>
    exact (shallow_of_enclosed (by decide) ihLeft).join (shallow_of_enclosed (by decide) ihRight) nofun nofun
  | either left right ihLeft ihRight =>
    have first : Shallow 1 left.lexemes := ihLeft.mono (by split <;> decide)
    exact first.join (shallow_of_enclosed (by decide) ihRight) nofun nofun

end Tree

end TriggerFlow.Expr
