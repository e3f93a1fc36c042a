import TriggerFlow.Proofs.Expr.Parsing

/-!
# Trees are parsed

Parts that a word joins are read one behind the other, so a chain of junctions is followed along its left side. With that
every tree is read at each level of the grammar as it is written there, by induction on the tree, and a text that spells
it is parsed as the term of its reading.
-/

namespace TriggerFlow.Expr

/-! ### The two junctions -/

namespace Junction

/-- The word that joins the parts. -/
def word : Junction → String
  | .all => "and" | .any => "or"

def lexeme : Junction → Lexeme
  | .all => .both | .any => .either

/-- Two trees that are joined. -/
def tree : Junction → Tree → Tree → Tree
  | .all => .both | .any => .either

/-- How tightly the junction binds. -/
def level : Junction → Nat
  | .all => 1 | .any => 0

/-- The rule that reads a part. -/
def part (named : String → Option Char) (fuel : Nat) : Junction → Parser
  | .all => rulesAt named fuel .inversion
  | .any => Grammar.conjunction (rulesAt named fuel)

end Junction

theorem Follows.word {j : Junction} {rest : List Token} (follows : Follows j.level rest) :
    Grammar.keyword? j.word rest = none := by
  cases j with
  | all => exact follows.and? (by decide)
  | any => exact follows.or? (by decide)

/-! ### Parts -/

/-- The parts that joining reads from tokens, whatever comes behind them that may: it goes on behind a separator, and
stops otherwise. -/
def Joins (operand : Parser) (separator : List Token → Option (List Token)) (ends : List Token → Prop) (ts : List Token)
    (parts : Option (List Term)) : Prop :=
  ∃ width ≤ ts.length, ∀ count rest, ends rest → Grammar.joined operand separator (count + width) (ts ++ rest) =
    match separator rest with
    | none => parts.map fun ps => (ps, rest)
    | some more => parts.bind fun ps =>
      (Grammar.joined operand separator count more).map fun others => (ps ++ others.1, others.2)

namespace Joins

variable {operand : Parser} {separator : List Token → Option (List Token)} {ends : List Token → Prop} {ts us : List Token}
  {parts : Option (List Term)} {read : Option Tree}

theorem single (some_ : ts ≠ []) (reads : ∀ rest, ends rest → operand (ts ++ rest) = outcome rest read) :
    Joins operand separator ends ts (read.map fun t => [t.term]) := by
  refine ⟨1, List.length_pos_iff.mpr some_, fun count rest ended => ?_⟩
  have first := reads rest ended
  cases separates : separator rest with
  | none => rw [joined_last first separates, Option.map_map]; rfl
  | some more => rw [joined_next first separates]; cases read <;> rfl

/-- One part more, behind a separator. -/
theorem snoc {mark : Token} (joins : Joins operand separator ends ts parts)
    (marks : ∀ more, separator (mark :: more) = some more) (ended : ∀ more, ends (mark :: more))
    (reads : ∀ rest, ends rest → operand (us ++ rest) = outcome rest read) :
    Joins operand separator ends (ts ++ mark :: us) (parts.bind fun ps => read.map fun t => ps ++ [t.term]) := by
  obtain ⟨width, few, joins⟩ := joins
  refine ⟨width + 1, by rw [List.length_append, List.length_cons]; omega, fun count rest last => ?_⟩
  have next := reads rest last
  rw [List.append_assoc, List.cons_append, ← Nat.add_assoc, Nat.add_right_comm, joins (count + 1) _ (ended _)]
  simp only [marks]
  cases separates : separator rest with
  | none => rw [joined_last next separates]; cases parts <;> cases read <;> rfl
  | some more =>
    rw [joined_next next separates]
    cases parts <;> cases read <;> simp [Option.map_map, Function.comp_def]

/-- Where nothing goes on, the parts are those of a junction, or one that stands for itself. -/
theorem junction {j : Junction} {word : String} {rest : List Token}
    (joins : Joins operand (Grammar.keyword? word) ends ts parts) (ended : ends rest)
    (stops : Grammar.keyword? word rest = none) :
    Grammar.junction j word operand (ts ++ rest) =
      parts.map fun ps => (match ps with | [p] => p | ps => .junction j ps, rest) := by
  obtain ⟨width, few, joins⟩ := joins
  obtain ⟨count, is⟩ := Nat.exists_eq_add_of_le' (show width ≤ (ts ++ rest).length + 1 by
    rw [List.length_append]; omega)
  rw [Grammar.junction, is, joins count rest ended, stops]
  cases parts with
  | none => rfl
  | some ps => rcases ps with - | ⟨p, - | ⟨q, ps⟩⟩ <;> rfl

end Joins

namespace Tree

/-- A leaf is a constant, a name or a member. -/
theorem leaf_term (l : Leaf) :
    (∃ c, l.term = .constant c) ∨ (∃ id, l.term = .name id) ∨ ∃ t id, l.term = .attribute t id := by
  cases l with
  | path head members _ =>
    right
    rw [Leaf.term]
    obtain rfl | ⟨members, last, rfl⟩ := List.eq_nil_or_concat members
    · exact .inl ⟨_, rfl⟩
    · rw [List.concat_eq_append, List.foldl_append]
      exact .inr ⟨_, _, rfl⟩
  | number | text => exact .inl ⟨_, rfl⟩
  | bool | null => exact .inr (.inl ⟨_, rfl⟩)

theorem unstarred (t : Tree) (value : Term) : t.term ≠ .starred value := by
  cases t with
  | leaf l =>
    rw [term]
    obtain ⟨c, is⟩ | ⟨id, is⟩ | ⟨inner, id, is⟩ := leaf_term l <;> rw [is] <;> nofun
  | not | compare | both | either => nofun

theorem exists_tree_of_level {j : Junction} {t : Tree} (level : t.level = j.level) :
    ∃ left right, t = j.tree left right := by
  cases j with
  | all => cases t with
    | both left right => exact ⟨left, right, rfl⟩
    | leaf | not | compare | either => cases level
  | any => cases t with
    | either left right => exact ⟨left, right, rfl⟩
    | leaf | not | compare | both => cases level

theorem term_tree (j : Junction) (left right : Tree) :
    (j.tree left right).term = .junction j (left.term.parts j ++ [right.term]) := by cases j <;> rfl

theorem parts_junction (j : Junction) (ps : List Term) : (Term.junction j ps).parts j = ps := if_pos rfl

/-- Only a disjunction has several parts that are disjuncts, and only a conjunction several that are conjuncts. -/
theorem parts_of_level {j : Junction} {t : Tree} (other : t.level ≠ j.level) : t.term.parts j = [t.term] := by
  cases t with
  | leaf l =>
    rw [term]
    obtain ⟨c, is⟩ | ⟨id, is⟩ | ⟨inner, id, is⟩ := leaf_term l <;> rw [is] <;> rfl
  | not | compare => rfl
  | both => cases j with
    | all => exact absurd rfl other
    | any => rfl
  | either => cases j with
    | all => rfl
    | any => exact absurd rfl other

theorem parts_or (j : Junction) (t : Tree) : t.term.parts j = [t.term] ∨
    ∃ left right : Tree, t.term = .junction j (left.term.parts j ++ [right.term]) := by
  by_cases level : t.level = j.level
  · obtain ⟨left, right, rfl⟩ := exists_tree_of_level level
    exact .inr ⟨left, right, term_tree j left right⟩
  · exact .inl (parts_of_level level)

theorem parts_ne_nil (j : Junction) (t : Tree) : t.term.parts j ≠ [] := by
  obtain one | ⟨left, right, is⟩ := parts_or j t
  · rw [one]
    nofun
  · rw [is, parts_junction]
    exact List.append_ne_nil_of_right_ne_nil _ (List.cons_ne_nil _ _)

/-- The parts of a term make the term. -/
theorem junction_parts (j : Junction) (t : Tree) :
    (match t.term.parts j with | [p] => p | ps => Term.junction j ps) = t.term := by
  obtain one | ⟨left, right, is⟩ := parts_or j t
  · rw [one]
  · obtain ⟨p, ps, first⟩ := List.exists_cons_of_ne_nil (parts_ne_nil j left)
    rw [is, parts_junction, first]
    cases ps <;> rfl

/-- A reading binds as its tree does, but for a comparison that is read as a negation. -/
theorem level_of_read {t read : Tree} (reads : t.read? = some read) :
    read.level = t.level ∨ t.level = 2 ∧ read.level = 3 := by
  cases t with
  | leaf l =>
    cases reads
    exact .inl rfl
  | not operand =>
    obtain ⟨inner, -, rfl⟩ := Option.map_eq_some_iff.mp reads
    exact .inl rfl
  | compare c left right =>
    rw [read?, readWith] at reads
    split at reads
    · cases reads
    · simp only [Option.bind_eq_bind, Option.bind_eq_some_iff, Option.map_eq_some_iff, id_eq,
        exists_eq_right, readWith_core left, readWith_of_not_isNot left.isNot_core] at reads
      obtain ⟨right', -, _, ⟨left', -, rfl⟩, rfl⟩ := reads
      cases left.negations with
      | zero => exact .inl rfl
      | succ => exact .inr ⟨rfl, rfl⟩
  | both left right | either left right =>
    simp only [read?, readWith, Option.bind_eq_bind, Option.bind_eq_some_iff] at reads
    obtain ⟨left', -, right', -, reads⟩ := reads
    cases reads
    exact .inl rfl

end Tree

/-! ### From level to level -/

/-- Lexemes that are read as a part of a junction. -/
def ReadsPart (named : String → Option Char) (j : Junction) (lexemes : List Lexeme) (read : Option Tree) : Prop :=
  ∀ fuel rest, 4 * lexemes.length ≤ fuel + 1 → Follows (j.level + 1) rest →
    j.part named fuel (tokensOf lexemes ++ rest) = outcome rest read

/-- Lexemes that are read as the parts of a junction. -/
def ReadsParts (named : String → Option Char) (j : Junction) (lexemes : List Lexeme) (read : Option Tree) : Prop :=
  ∀ fuel, 4 * lexemes.length ≤ fuel + 1 →
    Joins (j.part named fuel) (Grammar.keyword? j.word) (Follows (j.level + 1)) (tokensOf lexemes)
      (read.map fun t => t.term.parts j)

section Levels

variable {named : String → Option Char} {j : Junction} {lexemes : List Lexeme} {read : Option Tree}

/-- What is no such junction is its only part. -/
theorem ReadsPart.parts (reads : ReadsPart named j lexemes read) (operand : Operand lexemes)
    (other : ∀ t ∈ read, t.level ≠ j.level) : ReadsParts named j lexemes read := by
  intro fuel enough
  have alone : (read.map fun t => t.term.parts j) = read.map fun t => [t.term] :=
    Option.map_congr fun t mem => Tree.parts_of_level (other t mem)
  have some_ : tokensOf lexemes ≠ [] := fun none => operand.ne_nil (List.map_eq_nil_iff.mp none)
  rw [alone]
  exact .single some_ fun rest => reads fuel rest enough

/-- One part more. -/
theorem ReadsParts.snoc {others : List Lexeme} {right : Option Tree} (parts : ReadsParts named j lexemes read)
    (reads : ReadsPart named j others right) : ReadsParts named j (lexemes ++ j.lexeme :: others)
      (read.bind fun left => right.map fun right => j.tree left right) := by
  intro fuel enough
  rw [List.length_append, List.length_cons] at enough
  have written : tokensOf (lexemes ++ j.lexeme :: others) =
      tokensOf lexemes ++ .keyword j.word :: tokensOf others := by
    cases j <;> simp [tokensOf, Junction.lexeme, Junction.word, Lexeme.token]
  have joined : ((read.bind fun left => right.map fun right => j.tree left right).map fun t => t.term.parts j) =
      (read.map fun t => t.term.parts j).bind fun ps => right.map fun t => ps ++ [t.term] := by
    cases read <;> cases right <;> simp [Tree.term_tree, Tree.parts_junction]
  have ended (more : List Token) : Follows (j.level + 1) (.keyword j.word :: more) := by
    cases j with
    | all => exact .both (Nat.le_refl 2)
    | any => exact .either (Nat.le_refl 1)
  rw [written, joined]
  exact (parts fuel (by omega)).snoc (fun _ => if_pos rfl) ended fun rest => reads fuel rest (by omega)

/-- The parts make the junction. -/
theorem ReadsParts.junction (parts : ReadsParts named j lexemes read) {fuel : Nat} {rest : List Token}
    (enough : 4 * lexemes.length ≤ fuel + 1) (follows : Follows j.level rest) :
    Grammar.junction j j.word (j.part named fuel) (tokensOf lexemes ++ rest) = outcome rest read := by
  rw [(parts fuel enough).junction (follows.mono (Nat.le_succ _)) follows.word]
  cases read with
  | none => rfl
  | some t => exact congrArg (fun term => some (term, rest)) (Tree.junction_parts j t)

/-- A conjunction is a part of a disjunction. -/
theorem ReadsParts.part (parts : ReadsParts named .all lexemes read) : ReadsPart named .any lexemes read :=
  fun _ _ enough follows => parts.junction enough follows

theorem ReadsParts.expression (parts : ReadsParts named .any lexemes read) (operand : Operand lexemes) :
    ReadsExpression named lexemes read := by
  intro fuel rest enough follows
  have disjunction (fuel : Nat) (le : 4 * lexemes.length ≤ fuel + 1) :
      Grammar.disjunction (rulesAt named fuel) (tokensOf lexemes ++ rest) = outcome rest read :=
    parts.junction le follows
  obtain ⟨l, more, rfl, opens⟩ := operand.eq_cons
  obtain - | fuel := fuel
  · simp only [List.length_cons] at enough
    omega
  change Grammar.expression (rulesAt named fuel) (l.token :: (tokensOf more ++ rest)) = _
  rw [expression_of_opens opens]
  change (Grammar.disjunction (rulesAt named fuel) (tokensOf (l :: more) ++ rest)).bind _ = _
  rw [disjunction fuel (by omega)]
  cases read with
  | none => rfl
  | some t => simp only [outcome, Option.map_some, Option.bind_some, follows.if?]

/-- An expression in parentheses is bound by nothing. -/
theorem ReadsExpression.parenthesised (reads : ReadsExpression named lexemes read) (operand : Operand lexemes) :
    ReadsPrimary named (.opening :: (lexemes ++ [.closing])) read := by
  intro fuel rest enough follows
  obtain ⟨l, more, rfl, opens⟩ := operand.eq_cons
  obtain - | fuel := fuel
  · simp only [List.length_cons] at enough
    omega
  have unbound : Grammar.atSymbol ":=" (tokensOf more ++ .symbol ")" :: rest) = false := by
    cases more with
    | nil => rfl
    | cons l more => exact atBinding_lexeme l
  have inner : rulesAt named fuel .expression (l.token :: (tokensOf more ++ .symbol ")" :: rest)) =
      outcome (.symbol ")" :: rest) read :=
    reads fuel _ (by simp only [List.length_cons, List.length_append] at enough ⊢; omega) .closing
  have element : Grammar.element (rulesAt named fuel) (l.token :: (tokensOf more ++ .symbol ")" :: rest)) =
      outcome (.symbol ")" :: rest) read := by
    rw [element_of_opens opens unbound, inner]
    cases read <;> rfl
  have inside : Grammar.parenthesised (rulesAt named fuel) (l.token :: (tokensOf more ++ .symbol ")" :: rest)) =
      outcome rest read := by
    rw [Grammar.parenthesised]
    · rw [element]
      cases read with
      | none => rfl
      | some t =>
        simp only [outcome, Option.map_some, Option.bind_eq_bind, Option.bind_some]
        cases is : t.term with
        | starred value => exact absurd is (t.unstarred value)
        | _ => rfl
    · intro _ is
      exact (token_of_opens opens).1 (List.cons.inj is).1
    · intro _ is
      exact (token_of_opens opens).2 (List.cons.inj is).1
  have written : tokensOf (.opening :: (l :: more ++ [.closing])) ++ rest =
      .symbol "(" :: l.token :: (tokensOf more ++ .symbol ")" :: rest) := by simp [tokensOf, Lexeme.token]
  rw [written]
  change (Grammar.parenthesised (rulesAt named fuel) (l.token :: (tokensOf more ++ .symbol ")" :: rest))).bind _ = _
  rw [inside]
  cases read with
  | none => rfl
  | some t => exact follows.trailers _ _

end Levels

/-! ### Trees -/

/-- A tree is read at each level as it is written there. -/
structure Tree.Reads (named : String → Option Char) (t : Tree) : Prop where
  parts : ∀ j, ReadsParts named j (t.lexemesAt j.level) t.read?
  inversion : ReadsInversion named (t.lexemesAt 2) t.read?
  primary : ReadsPrimary named (t.core.lexemesAt 3) t.core.read?

namespace Tree

variable {named : String → Option Char} {t : Tree}

theorem lexemesAt_of_le {needed : Nat} (le : needed ≤ t.level) : t.lexemesAt needed = t.lexemes :=
  if_neg (Nat.not_lt.mpr le)

theorem lexemesAt_of_lt {needed : Nat} (lt : t.level < needed) :
    t.lexemesAt needed = .opening :: (t.lexemes ++ [.closing]) := if_pos lt

/-- The negations in front are read before the rest. -/
theorem inversion_of_primary (primary : ReadsPrimary named (t.core.lexemesAt 3) t.core.read?) :
    ReadsInversion named (t.lexemesAt 3) t.read? := by
  rw [lexemesAt_core, read?, readWith_core]
  exact (primary.inversion t.plainly_core).negated _

/-- A tree that is no such junction is a part of one. -/
theorem parts_of_part {j : Junction} (reads : ReadsPart named j (t.lexemesAt (j.level + 1)) t.read?)
    (other : t.level ≠ j.level) : ReadsParts named j (t.lexemesAt j.level) t.read? := by
  have same : t.lexemesAt j.level = t.lexemesAt (j.level + 1) := by
    obtain lt | gt := Nat.lt_or_gt_of_ne other
    · rw [lexemesAt_of_lt lt, lexemesAt_of_lt (by omega)]
    · rw [lexemesAt_of_le (by omega), lexemesAt_of_le gt]
  rw [same]
  refine reads.parts (operand_of_enclosed t.operand) fun read is => ?_
  have loose : j.level ≤ 1 := by cases j <;> decide
  have := level_of_read is
  omega

theorem parenthesised (disjuncts : ReadsParts named .any (t.lexemesAt 0) t.read?) (loose : t.level < 3) :
    ReadsPrimary named (t.lexemesAt 3) t.read? := by
  rw [lexemesAt_of_lt loose]
  rw [lexemesAt_of_le (Nat.zero_le _)] at disjuncts
  exact (disjuncts.expression t.operand).parenthesised t.operand

theorem reads_of_conjuncts (conjuncts : ReadsParts named .all (t.lexemesAt 1) t.read?) (tight : t.level ≠ 0)
    (inversion : ReadsInversion named (t.lexemesAt 2) t.read?)
    (primary : ReadsPrimary named (t.core.lexemesAt 3) t.core.read?) : t.Reads named :=
  ⟨fun
    | .all => conjuncts
    | .any => parts_of_part conjuncts.part tight, inversion, primary⟩

theorem reads_of_primary (primary : ReadsPrimary named (t.core.lexemesAt 3) t.core.read?) (tight : t.level = 3) :
    t.Reads named := by
  have inversion := inversion_of_primary primary
  rw [lexemesAt_of_le (by omega), ← lexemesAt_of_le (show 2 ≤ t.level by omega)] at inversion
  have conjuncts := parts_of_part (j := .all) inversion (by rw [tight]; nofun)
  exact reads_of_conjuncts conjuncts (by omega) inversion primary

theorem Reads.part (reads : t.Reads named) : ∀ j, ReadsPart named j (t.lexemesAt (j.level + 1)) t.read?
  | .all => reads.inversion
  | .any => (reads.parts .all).part

theorem lexemesAt_tree (j : Junction) (left right : Tree) : (j.tree left right).lexemesAt j.level =
    left.lexemesAt j.level ++ j.lexeme :: right.lexemesAt (j.level + 1) := by
  cases j with
  | all => rfl
  | any => rw [Junction.level, lexemesAt_of_le (Nat.zero_le _), lexemesAt_of_le (Nat.zero_le _)]; rfl

theorem read?_tree (j : Junction) (left right : Tree) : (j.tree left right).read? =
    left.read?.bind fun left => right.read?.map fun right => j.tree left right := by
  cases j <;> rw [Junction.tree, read?, readWith, read?, read?] <;>
    cases left.readWith id <;> cases right.readWith id <;> rfl

/-- A junction goes on with the parts of its left side. -/
theorem Reads.tree {left right : Tree} (reads : left.Reads named) (also : right.Reads named) (j : Junction) :
    ReadsParts named j ((j.tree left right).lexemesAt j.level) (j.tree left right).read? := by
  rw [lexemesAt_tree, read?_tree]
  exact (reads.parts j).snoc (also.part j)

/-- Of a comparison the negations in front are those of its left operand. -/
theorem comparison_read (c : Comparison) (left right : Tree) : (Tree.compare c left right).read? =
    ((if right.isNot then none else right.read?).bind fun right => left.core.read?.map fun left =>
      .compare c left right).map (negated left.negations) := by
  rw [read?, readWith]
  split
  · rfl
  · rw [read?, read?]
    cases right.readWith id with
    | none => rfl
    | some right' =>
      simp only [Option.bind_eq_bind, Option.bind_some, Option.map_id, id_eq]
      rw [readWith_core, readWith_of_not_isNot left.isNot_core]
      rfl

/-- No negation is read on the right of a comparison. -/
theorem operand_right (reads : t.Reads named) {fuel : Nat} {rest : List Token}
    (enough : 4 * (t.lexemesAt 3).length ≤ fuel + 2) (follows : Follows 3 rest) :
    Grammar.operand (rulesAt named fuel) (tokensOf (t.lexemesAt 3) ++ rest) =
      outcome rest (if t.isNot then none else t.read?) := by
  cases t with
  | not operand => exact operand_not _
  | leaf | compare | both | either => exact reads.primary.operand (plainly_core _) enough follows

/-- Every tree is read as it is written, but for the reading of its negations. -/
theorem reads (named : String → Option Char) (t : Tree) : t.Reads named := by
  -- a tree is first read at the level of its own operator, then at the looser ones, and in parentheses at the tighter ones
  induction t with
  | leaf l =>
    refine reads_of_primary (fun fuel rest enough follows => ?_) rfl
    obtain - | fuel := fuel
    · have := List.length_pos_iff.mpr (Tree.leaf l).operand.ne_nil
      change 4 * (Tree.leaf l).lexemes.length ≤ _ at enough
      omega
    · exact primary_leaf follows l
  | not operand ih => exact reads_of_primary ih.primary rfl
  | compare c left right ihLeft ihRight =>
    have inversion :
        ReadsInversion named ((Tree.compare c left right).lexemesAt 2) (Tree.compare c left right).read? := by
      rw [lexemesAt_of_le (Nat.le_refl 2), comparison_read, lexemes]
      change ReadsInversion named (left.lexemesAt 3 ++ .compare c :: right.lexemesAt 3) _
      rw [lexemesAt_core left, List.append_assoc]
      exact (ihLeft.primary.compared left.plainly_core c (operand_right ihRight)).negated _
    have conjuncts := parts_of_part (j := .all) inversion nofun
    have disjuncts := parts_of_part (j := .any) conjuncts.part nofun
    exact reads_of_conjuncts conjuncts nofun inversion (parenthesised disjuncts (show 2 < 3 by decide))
  | both left right ihLeft ihRight =>
    have conjuncts := ihLeft.tree ihRight .all
    have disjuncts := parts_of_part (j := .any) conjuncts.part nofun
    have primary := parenthesised disjuncts (show 1 < 3 by decide)
    exact reads_of_conjuncts conjuncts nofun (inversion_of_primary (t := .both left right) primary) primary
  | either left right ihLeft ihRight =>
    have disjuncts := ihLeft.tree ihRight .any
    have primary := parenthesised disjuncts (show 0 < 3 by decide)
    have inversion : ReadsInversion named ((Tree.either left right).lexemesAt 2) (Tree.either left right).read? :=
      inversion_of_primary (t := .either left right) primary
    have conjuncts := parts_of_part (j := .all) inversion nofun
    exact ⟨fun | .all => conjuncts | .any => disjuncts, inversion, primary⟩

/-- The tokens of a tree are read as the whole of an expression. -/
theorem whole_tokens (t : Tree) {fuel : Nat} (enough : 4 * t.lexemes.length ≤ fuel) :
    Grammar.whole (rulesAt named fuel) (tokensOf t.lexemes) = t.read?.map Tree.term := by
  have expression : rulesAt named fuel .expression (tokensOf t.lexemes) = outcome [] t.read? := by
    have disjuncts := (t.reads named).parts .any
    rw [Junction.level, lexemesAt_of_le (Nat.zero_le _)] at disjuncts
    have read := disjuncts.expression t.operand fuel [] enough .done
    rwa [List.append_nil] at read
  rw [Grammar.whole, Grammar.elements, expression]
  cases t.read? <;> rfl

/-- A spelling of a tree is parsed as the term of its reading. -/
theorem parse?_spelled (named : String → Option Char) {text : String} (spelled : Spelled t.lexemes text.toList)
    (short : text.length ≤ 4 * Lexer.maxDepth) :
    parse? named (Spelling.inWords text) = t.read?.map Tree.term ∧ Char.ofNat 0 ∉ Spelling.inWords text := by
  obtain ⟨depth, balanced, deep⟩ := t.shallow
  have few : t.lexemes.length ≤ text.length := by
    rw [← String.length_toList]
    exact spelled.length_le
  have closed : (t.lexemes.map Lexeme.token).foldlM Lexer.afterToken? [] = some [] :=
    balanced [] (by rw [List.length_nil]; omega)
  obtain ⟨read, noZero, room⟩ := spelled.tokens? named t.operand.meets t.operand.ne_nil closed
  refine ⟨?_, noZero⟩
  rw [parse?, read]
  exact t.whole_tokens (by omega)

end Tree

end TriggerFlow.Expr
