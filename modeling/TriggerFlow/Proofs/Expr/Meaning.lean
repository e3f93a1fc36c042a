import TriggerFlow.Proofs.Expr.Reading

/-!
# What a condition means

A spelling of a tree is compiled to the term of the tree that is read in its place, and this term has the value of that
tree, node by node. So a condition in the first family of spellings means what it says, unless a negation stands next to
a comparison.
-/

namespace TriggerFlow.Expr

variable (context : Members)

/-! ### The value of a leaf -/

/-- A name that is no field stands for null, but for those of the truth values. -/
theorem stands_for_null (id : Identifier) (yes : id.name ≠ "true") (no : id.name ≠ "false") :
    (namedConstants.lookup id.name).getD .null = .null := by
  have other (word : String) (keyword : word ∈ Lexer.keywords) : id.name ≠ word := by
    rintro rfl
    exact id.free keyword
  cases found : namedConstants.lookup id.name with
  | none => rfl
  | some value =>
    obtain ⟨before, behind, is, -⟩ := List.lookup_eq_some_iff.mp found
    have mem : (id.name, value) ∈ namedConstants := is ▸ List.mem_append_right _ List.mem_cons_self
    simp only [namedConstants, List.mem_cons, Prod.mk.injEq, List.not_mem_nil, or_false, yes, no, false_and, false_or,
      other "True" (by decide), other "False" (by decide)] at mem
    obtain ⟨-, rfl⟩ | ⟨-, rfl⟩ | ⟨-, rfl⟩ | ⟨-, rfl⟩ := mem <;> rfl

theorem nameValue_eq (name : String) :
    nameValue context name = fieldValue context name ((namedConstants.lookup name).getD .null) := rfl

/-- A truth value has no members, and neither has null. -/
theorem lookUp_fieldValue (name member : String) (b : Bool) :
    lookUp (fieldValue context name (.bool b)) (.text member) =
      lookUp (fieldValue context name .null) (.text member) := by
  rw [fieldValue, fieldValue]
  cases context.get? name <;> rfl

theorem eval_members (members : List Identifier) : ∀ (t : Term) (v : Value), t.eval context = .ok v →
    (members.foldl (fun t id => Term.attribute t id.name) t).eval context =
      .ok (members.foldl (fun value id => lookUp value (.text id.name)) v) := by
  induction members with
  | nil => exact fun t v is => is
  | cons id members ih =>
    intro t v is
    refine ih _ _ ?_
    rw [Term.eval, is]
    rfl

/-- The term of a leaf has its value. -/
theorem eval_leaf (l : Leaf) : l.term.eval context = .ok (l.value context) := by
  cases l with
  | number n => exact Term.eval.eq_1 ..
  | text l => exact Term.eval.eq_1 ..
  | bool b => cases b <;> exact Term.eval.eq_2 ..
  | null => exact Term.eval.eq_2 ..
  | path head members field =>
    rw [Leaf.term, eval_members context members _ _ (Term.eval.eq_2 ..), nameValue_eq, Leaf.value]
    -- a path that begins with the name of a truth value has a member, which no truth value has
    by_cases literal : head.name = "true" ∨ head.name = "false"
    · obtain ⟨b, is⟩ : ∃ b, (namedConstants.lookup head.name).getD .null = .bool b := by
        obtain is | is := literal <;> exact ⟨_, congrArg (fun name => (namedConstants.lookup name).getD .null) is⟩
      cases members with
      | nil =>
        obtain ⟨yes, no, -⟩ := field rfl
        exact absurd literal (by simp [yes, no])
      | cons id members => rw [is, List.foldl_cons, List.foldl_cons, lookUp_fieldValue]
    · rw [stands_for_null head (fun is => literal (.inl is)) fun is => literal (.inr is)]

/-! ### The value of a junction -/

/-- The truth value of a part that settles a junction. -/
def Junction.settling : Junction → Bool
  | .all => false | .any => true

/-- The truth value of a junction of terms. -/
def Term.evalParts : Junction → List Term → Except EvalFault Bool
  | .all => Term.evalAll context
  | .any => Term.evalAny context

section Junctions

variable (j : Junction)

theorem eval_junction (parts : List Term) :
    (Term.junction j parts).eval context = (Term.evalParts context j parts).map Value.bool := by
  cases j with
  | all =>
    rw [Term.eval, Term.evalParts]
    cases Term.evalAll context parts <;> rfl
  | any =>
    rw [Term.eval, Term.evalParts]
    cases Term.evalAny context parts <;> rfl

theorem evalParts_nil : Term.evalParts context j [] = .ok (!j.settling) := by
  cases j with
  | all => rw [Term.evalParts, Term.evalAll]; rfl
  | any => rw [Term.evalParts, Term.evalAny]; rfl

/-- A part settles the junction or leaves it to the parts behind it. -/
theorem evalParts_cons (part : Term) (parts : List Term) : Term.evalParts context j (part :: parts) =
    (part.eval context).bind fun v =>
      if v.isTruthy = j.settling then .ok j.settling else Term.evalParts context j parts := by
  cases j with
  | all =>
    rw [Term.evalParts, Term.evalAll]
    refine bind_congr fun v => ?_
    cases v.isTruthy <;> rfl
  | any =>
    rw [Term.evalParts, Term.evalAny]
    refine bind_congr fun v => ?_
    cases v.isTruthy <;> rfl

theorem evalParts_append (parts others : List Term) : Term.evalParts context j (parts ++ others) =
    (Term.evalParts context j parts).bind fun b =>
      if b = j.settling then .ok j.settling else Term.evalParts context j others := by
  induction parts with
  | nil =>
    rw [List.nil_append, evalParts_nil]
    cases j <;> rfl
  | cons part parts ih =>
    rw [List.cons_append, evalParts_cons, evalParts_cons, ih]
    cases part.eval context with
    | error => rfl
    | ok v => by_cases settled : v.isTruthy = j.settling <;> simp [Except.bind, settled]

theorem evalParts_single (t : Term) : Term.evalParts context j [t] = (t.eval context).map Value.isTruthy := by
  rw [evalParts_cons, evalParts_nil]
  cases t.eval context with
  | error => rfl
  | ok v => cases j <;> cases truthy : v.isTruthy <;> simp [Except.bind, Except.map, Junction.settling, truthy]

/-- The parts of a term together are as true as the term. -/
theorem evalParts_parts (t : Tree) :
    Term.evalParts context j (t.term.parts j) = (t.term.eval context).map Value.isTruthy := by
  obtain one | ⟨left, right, is⟩ := Tree.parts_or j t
  · rw [one, evalParts_single]
  · rw [is, Tree.parts_junction, eval_junction]
    cases Term.evalParts context j (left.term.parts j ++ [right.term]) <;> rfl

theorem value_tree (left right : Tree) : (j.tree left right).value context =
    (left.value context).bind fun v => if v.isTruthy = j.settling then .ok (.bool j.settling)
      else (right.value context).map fun w => .bool w.isTruthy := by
  cases j with
  | all =>
    rw [Junction.tree, Tree.value]
    refine bind_congr fun v => ?_
    cases v.isTruthy <;> cases right.value context <;> rfl
  | any =>
    rw [Junction.tree, Tree.value]
    refine bind_congr fun v => ?_
    cases v.isTruthy <;> cases right.value context <;> rfl

theorem eval_tree {left right : Tree} (ofLeft : left.term.eval context = left.value context)
    (ofRight : right.term.eval context = right.value context) :
    (j.tree left right).term.eval context = (j.tree left right).value context := by
  rw [Tree.term_tree, eval_junction, evalParts_append, evalParts_parts, evalParts_single, ofLeft, ofRight, value_tree]
  cases left.value context with
  | error => rfl
  | ok v =>
    by_cases settled : v.isTruthy = j.settling
    · simp [Except.bind, Except.map, settled]
    · cases right.value context <;> simp [Except.bind, Except.map, settled]

end Junctions

/-! ### The value of a tree -/

/-- The term of a tree has its value. -/
theorem eval_term (t : Tree) : t.term.eval context = t.value context := by
  induction t with
  | leaf l => exact eval_leaf context l
  | not operand ih => rw [Tree.term, Term.eval, ih, Tree.value]
  | compare c left right ihLeft ihRight =>
    rw [Tree.term, Term.eval, ihLeft, Tree.value]
    cases left.value context with
    | error => rfl
    | ok v =>
      simp only [Term.evalCompared, ihRight]
      cases right.value context with
      | error => rfl
      | ok w => cases compared : compareBy c.op v w with
        | error => simp [bind, Except.bind, compared]
        | ok b => cases b <;> simp [bind, Except.bind, compared]
  | both left right ihLeft ihRight => exact eval_tree context .all ihLeft ihRight
  | either left right ihLeft ihRight => exact eval_tree context .any ihLeft ihRight

/-! ### Compiling -/

theorem refusal?_leaf (l : Leaf) : refusal? l.term = none := by
  cases l with
  | number | text | bool | null => rw [Leaf.term, refusal?]
  | path head members _ =>
    have attributes (members : List Identifier) : ∀ t : Term, refusal? t = none →
        refusal? (members.foldl (fun t id => .attribute t id.name) t) = none := by
      induction members with
      | nil => exact fun t is => is
      | cons id members ih => exact fun t is => ih _ (by rw [refusal?, is])
    exact attributes members _ (refusal?.eq_2 _)

theorem refusalOfAll?_append (parts others : List Term) :
    refusalOfAll? (parts ++ others) = (refusalOfAll? parts).or (refusalOfAll? others) := by
  induction parts with
  | nil => rw [List.nil_append, refusalOfAll?, Option.none_or]
  | cons part parts ih => rw [List.cons_append, refusalOfAll?, refusalOfAll?, ih, Option.or_assoc]

theorem refusalOfAll?_single (t : Term) : refusalOfAll? [t] = refusal? t := by
  rw [refusalOfAll?, refusalOfAll?, Option.or_none]

theorem refusalOfAll?_parts (j : Junction) (t : Tree) : refusalOfAll? (t.term.parts j) = refusal? t.term := by
  obtain one | ⟨left, right, is⟩ := Tree.parts_or j t
  · rw [one, refusalOfAll?_single]
  · rw [is, Tree.parts_junction, refusal?]

/-- The term of a tree is in the language. -/
theorem refusal?_term (t : Tree) : refusal? t.term = none := by
  induction t with
  | leaf l => exact refusal?_leaf l
  | not operand ih => rw [Tree.term, refusal?, ih]
  | compare c left right ihLeft ihRight =>
    have supported : ([(c.op, right.term)].find? fun part => !part.1.isSupported) = none := by cases c <;> rfl
    rw [Tree.term, refusal?, supported]
    simp only [ihLeft, refusalOfCompared?, ihRight, Option.or_none]
  | both left right ihLeft ihRight | either left right ihLeft ihRight =>
    rw [Tree.term, refusal?, refusalOfAll?_append, refusalOfAll?_parts, refusalOfAll?_single, ihLeft, ihRight,
      Option.or_none]

variable {text : String} {t : Tree}

/-- A spelling of a tree is compiled to the term of its reading. -/
theorem compile_spelled (spelled : Spelled t.lexemes text.toList) (short : text.length ≤ maxLength) :
    compile text = match t.read? with
      | none => .error (.malformed text)
      | some read => .ok read.term := by
  obtain ⟨parsed, noZero⟩ := Tree.parse?_spelled Text.charNamed? spelled (short.trans (by decide))
  have seen : Text.isBlankText text = false := spelled.not_blank t.operand.ne_nil
  rw [compile, seen, if_neg Bool.false_ne_true, if_neg (Nat.not_lt.mpr short), if_neg (by simpa using noZero), parsed]
  cases t.read? with
  | none => rfl
  | some read => simp only [Option.map_some, refusal?_term]

/-- The truth value of a tree, or why it has none. -/
def Tree.verdict (text : String) (context : Members) (t : Tree) : Except Fault Bool :=
  match t.value context with
  | .ok v => .ok v.isTruthy
  | .error cause => .error (.failed text cause)

/-- A condition holds as the reading of its tree does. -/
theorem holds_spelled (spelled : Spelled t.lexemes text.toList) (short : text.length ≤ maxLength) :
    holds text context = match t.read? with
      | none => .error (.refused (.malformed text))
      | some read => read.verdict text context := by
  rw [holds, evaluate, compile_spelled spelled short]
  cases t.read? with
  | none => rfl
  | some read =>
    simp only [eval_term, Tree.verdict]
    cases read.value context <;> rfl

/-- A condition without negations on either side of a comparison holds as its tree does, and errs as it does. With them
the negations in front of a comparison negate it as a whole, and one on its right is no expression. -/
theorem holds_as_written (spelled : Spelled t.lexemes text.toList) (short : text.length ≤ maxLength) :
    (t.Unnegated → holds text context = t.verdict text context) ∧
      holds text context = match t.read? with
        | none => .error (.refused (.malformed text))
        | some read => read.verdict text context := by
  have read := holds_spelled context spelled short
  refine ⟨fun unnegated => ?_, read⟩
  rw [read, Tree.read?_of_unnegated t unnegated]

end TriggerFlow.Expr

namespace TriggerFlow.Trial

open TriggerFlow.Expr

def paid : Identifier := ⟨'p', "aid".toList, by decide, by simp, by decide⟩

def late : Identifier := ⟨'l', "ate".toList, by decide, by simp, by decide⟩

def days : Identifier := ⟨'d', "ays".toList, by decide, by simp, by decide⟩

/-- A field of the context. -/
def field (id : Identifier) (free : id.name ≠ "true" ∧ id.name ≠ "false" ∧ id.name ≠ "null") : Tree :=
  .leaf (.path id [] fun _ => free)

/-- The negation of a field, compared with another. -/
def unpaidIsLate : Tree := .compare .same (.not (field paid (by decide))) (field late (by decide))

/-- The negation takes in the comparison behind it. Here the field in front is not there. -/
theorem negation_takes_comparison :
    Spelled unpaidIsLate.lexemes "!paid === late".toList ∧
      unpaidIsLate.verdict "!paid === late" [("late", .bool false)] = .ok false ∧
      holds "!paid === late" [("late", .bool false)] = .ok true := by
  have spelled : Spelled unpaidIsLate.lexemes "!paid === late".toList :=
    .next .not (.next (.name paid) (.blank (.inl rfl) (.next (.compare .same) (.blank (.inl rfl)
      (.next (.name late) .done)))))
  refine ⟨spelled, rfl, ?_⟩
  rw [holds_spelled _ spelled (by decide)]
  rfl

def seven : Numeral :=
  .decimal ⟨some ⟨['7'], ['7'], .last rfl⟩, none, none, .inl nofun, fun _ _ zero => absurd zero (by decide)⟩

/-- A comparison that is negated, and one of a member with a number. -/
def unpaidForWeek : Tree :=
  .both (.not (.compare .same (field paid (by decide)) (.leaf (.bool true))))
    (.compare .gt (.leaf (.path late [days] nofun)) (.leaf (.number seven)))

theorem unpaid_for_week :
    holds "!(paid === true)&& late.days > 7" [("late", .object [("days", .int 8)])] = .ok true ∧
      holds "!(paid === true)&& late.days > 7" [] = .error (.failed "!(paid === true)&& late.days > 7"
        (.notOrdered ">" "NoneType" "int")) := by
  have spelled : Spelled unpaidForWeek.lexemes "!(paid === true)&& late.days > 7".toList :=
    .next .not (.next .opening (.next (.name paid) (.blank (.inl rfl) (.next (.compare .same) (.blank (.inl rfl)
      (.next (.name .true_) (.next .closing (.next .both (.blank (.inl rfl) (.next (.name late) (.next .dot
        (.next (.name days) (.blank (.inl rfl) (.next (.compare .gt) (.blank (.inl rfl) (.next (.number seven)
          .done))))))))))))))))
  have unnegated : unpaidForWeek.Unnegated := by simp [unpaidForWeek, field, Tree.Unnegated, Tree.isNot]
  exact ⟨((holds_as_written _ spelled (by decide)).1 unnegated).trans rfl,
    ((holds_as_written _ spelled (by decide)).1 unnegated).trans rfl⟩

end TriggerFlow.Trial
