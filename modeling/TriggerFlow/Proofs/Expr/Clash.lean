import TriggerFlow.Expr.Eval
import Mathlib.Data.List.Basic

/-!
# What can go wrong in a term of the language

The check of a term and its evaluation go through the same constructs, each in its own way. A term is accepted if every
part of it is of a construct that the evaluation knows, also a part that the evaluation of the whole would pass over. So
what fails is never a construct: it is an operation whose operands do not suit it, and both operands have values.
-/

namespace TriggerFlow.Expr

/-- The terms that a term is made of, itself included. The key of a subscript is none of them: it is taken as it is
written. -/
inductive Term.Part (part : Term) : Term → Prop
  | self : Part part part
  | owner {value : Term} {name : String} (inner : Part part value) : Part part (.attribute value name)
  | container {value key : Term} (inner : Part part value) : Part part (.subscript value key)
  | left {left : Term} {rest : List (CompareOp × Term)} (inner : Part part left) : Part part (.compare left rest)
  | compared {left right : Term} {op : CompareOp} {rest : List (CompareOp × Term)} (mem : (op, right) ∈ rest)
      (inner : Part part right) : Part part (.compare left rest)
  | junction {j : Junction} {item : Term} {items : List Term} (mem : item ∈ items) (inner : Part part item) :
      Part part (.junction j items)
  | operand {op : UnaryOp} {operand : Term} (inner : Part part operand) : Part part (.unary op operand)
  | listed {item : Term} {items : List Term} (mem : item ∈ items) (inner : Part part item) : Part part (.list items)
  | tupled {item : Term} {items : List Term} (mem : item ∈ items) (inner : Part part item) : Part part (.tuple items)
  | starred {value : Term} (inner : Part part value) : Part part (.starred value)

/-- The constructs of the language: keys are literal, operators are supported, and only a literal has a sign. -/
def Term.InLanguage : Term → Prop
  | .subscript _ key => ∃ c, key = .constant c
  | .compare _ rest => ∀ pair ∈ rest, pair.1.isSupported = true
  | .unary op operand => op = .not ∨ op = .minus ∧ ∃ c, operand = .constant c
  | .starred _ | .foreign _ => False
  | _ => True

/-- Whether a fault is that an operation has no meaning for values of such types. -/
def EvalFault.isOfType : EvalFault → Bool
  | .byteRange | .element _ => false
  | _ => true

/-- The operands of a chain that are compared with each other, with the operator between them. -/
def comparisons (left : Term) (rest : List (CompareOp × Term)) : List (Term × CompareOp × Term) :=
  (left :: rest.map Prod.snd).zip rest

/-- Two operands that are compared somewhere in a term, and their values. -/
structure Term.Compares (context : Members) (t : Term) (op : CompareOp) (l r : Value) : Prop where
  meet : ∃ left rest a b, (Term.compare left rest).Part t ∧ (a, op, b) ∈ comparisons left rest ∧
    a.eval context = .ok l ∧ b.eval context = .ok r
  supported : op.isSupported = true

/-- An operation of a term does not suit its operands: types that cannot be compared, a container that cannot be
searched for such a value, a sign in front of what is no number; or a number beyond all bytes is looked for among
bytes. -/
inductive Term.Clash (context : Members) (t : Term) : EvalFault → Prop
  | comparison {op : CompareOp} {l r : Value} {fault : EvalFault} (compares : t.Compares context op l r)
      (fails : compareBy op l r = .error fault) (ofType : fault.isOfType = true) : Clash context t fault
  | negation {c : Constant} {fault : EvalFault} (inside : (Term.unary .minus (.constant c)).Part t)
      (fails : c.value.negate = .error fault) (ofType : fault.isOfType = true) : Clash context t fault
  | byte {op : CompareOp} {n : Int} {bs : List UInt8} (compares : t.Compares context op (.int n) (.bytes bs))
      (membership : op = .isIn ∨ op = .notIn) (beyond : ¬ (0 ≤ n ∧ n < 256)) : Clash context t .byteRange

variable {t u : Term} {context : Members} {fault : EvalFault} {l r : Value} {op : CompareOp}

/-! ### Parts -/

theorem Term.Part.trans {part : Term} (inner : part.Part u) (outer : u.Part t) : part.Part t := by
  induction outer with
  | self => exact inner
  | owner _ ih => exact .owner ih
  | container _ ih => exact .container ih
  | left _ ih => exact .left ih
  | compared mem _ ih => exact .compared mem ih
  | junction mem _ ih => exact .junction mem ih
  | operand _ ih => exact .operand ih
  | listed mem _ ih => exact .listed mem ih
  | tupled mem _ ih => exact .tupled mem ih
  | starred _ ih => exact .starred ih

theorem Term.Clash.of_part (clash : u.Clash context fault) (part : u.Part t) : t.Clash context fault := by
  have lift {op : CompareOp} {l r : Value} (compares : u.Compares context op l r) : t.Compares context op l r := by
    obtain ⟨⟨left, rest, a, b, inside, values⟩, supported⟩ := compares
    exact ⟨⟨left, rest, a, b, inside.trans part, values⟩, supported⟩
  cases clash with
  | comparison compares fails ofType => exact .comparison (lift compares) fails ofType
  | negation inside fails ofType => exact .negation (inside.trans part) fails ofType
  | byte compares membership beyond => exact .byte (lift compares) membership beyond

/-! ### What is accepted -/

theorem refusalOfAll?_eq_none_iff {items : List Term} :
    refusalOfAll? items = none ↔ ∀ item ∈ items, refusal? item = none := by
  induction items with
  | nil => simp [refusalOfAll?]
  | cons item items ih => simp [refusalOfAll?, ih]

theorem refusalOfCompared?_eq_none_iff {rest : List (CompareOp × Term)} :
    refusalOfCompared? rest = none ↔ ∀ pair ∈ rest, refusal? pair.2 = none := by
  induction rest with
  | nil => simp [refusalOfCompared?]
  | cons pair rest ih => simp [refusalOfCompared?, ih]

theorem refusal?_compare {left : Term} {rest : List (CompareOp × Term)} :
    refusal? (.compare left rest) = none ↔
      (∀ pair ∈ rest, pair.1.isSupported = true) ∧ refusal? left = none ∧ ∀ pair ∈ rest, refusal? pair.2 = none := by
  rw [refusal?]
  cases found : rest.find? fun pair => !pair.1.isSupported with
  | some pair =>
    have other : pair.1.isSupported = false := by simpa using List.find?_some found
    have mem := List.mem_of_find?_eq_some found
    refine iff_of_false nofun fun accepted => ?_
    rw [accepted.1 pair mem] at other
    cases other
  | none =>
    have all : ∀ pair ∈ rest, pair.1.isSupported = true := by simpa using found
    rw [Option.or_eq_none_iff, refusalOfCompared?_eq_none_iff, and_iff_right all]

theorem inLanguage_of_accepted (accepted : refusal? t = none) : t.InLanguage := by
  cases t with
  | subscript value key => cases key <;> first | exact ⟨_, rfl⟩ | cases accepted
  | compare left rest => exact (refusal?_compare.mp accepted).1
  | unary op operand =>
    cases op with
    | not => exact .inl rfl
    | minus => cases operand <;> first | exact .inr ⟨rfl, _, rfl⟩ | cases accepted
    | plus | invert => cases accepted
  | starred | foreign => cases accepted
  | _ => trivial

/-- Every part of an accepted term is accepted. -/
theorem accepted_of_part (part : u.Part t) (accepted : refusal? t = none) : refusal? u = none := by
  induction part with
  | self => exact accepted
  | owner _ ih => exact ih accepted
  | @container value key _ ih =>
    obtain ⟨c, rfl⟩ := inLanguage_of_accepted accepted
    exact ih accepted
  | left _ ih => exact ih (refusal?_compare.mp accepted).2.1
  | compared mem _ ih => exact ih ((refusal?_compare.mp accepted).2.2 _ mem)
  | junction mem _ ih | listed mem _ ih | tupled mem _ ih =>
    rw [refusal?] at accepted
    exact ih (refusalOfAll?_eq_none_iff.mp accepted _ mem)
  | @operand op operand _ ih =>
    rcases inLanguage_of_accepted accepted with rfl | ⟨rfl, c, rfl⟩
    · exact ih accepted
    · exact ih rfl
  | starred _ _ => cases accepted

mutual

/-- A term whose every part is of the language is accepted. -/
theorem accepted_of_inLanguage : ∀ t : Term, (∀ part : Term, part.Part t → part.InLanguage) → refusal? t = none
  | .constant _, _ | .name _, _ => rfl
  | .attribute value _, known => accepted_of_inLanguage value fun _ inner => known _ (.owner inner)
  | .subscript value key, known => by
    obtain ⟨c, rfl⟩ : ∃ c, key = .constant c := known _ .self
    exact accepted_of_inLanguage value fun _ inner => known _ (.container inner)
  | .compare left rest, known =>
    refusal?_compare.mpr ⟨known _ .self, accepted_of_inLanguage left fun _ inner => known _ (.left inner),
      compared_accepted rest fun mem _ inner => known _ (.compared mem inner)⟩
  | .junction _ items, known =>
    refusalOfAll?_eq_none_iff.mpr (all_accepted items fun _ mem _ inner => known _ (.junction mem inner))
  | .list items, known =>
    refusalOfAll?_eq_none_iff.mpr (all_accepted items fun _ mem _ inner => known _ (.listed mem inner))
  | .tuple items, known =>
    refusalOfAll?_eq_none_iff.mpr (all_accepted items fun _ mem _ inner => known _ (.tupled mem inner))
  | .unary op operand, known => by
    obtain rfl | ⟨rfl, c, rfl⟩ : op = .not ∨ op = .minus ∧ ∃ c, operand = .constant c := known _ .self
    · exact accepted_of_inLanguage operand fun _ inner => known _ (.operand inner)
    · rfl
  | .starred _, known | .foreign _, known => absurd (known _ .self) id

theorem all_accepted : ∀ items : List Term,
    (∀ item ∈ items, ∀ part : Term, part.Part item → part.InLanguage) → ∀ item ∈ items, refusal? item = none
  | [], _ => by simp
  | first :: others, known =>
    List.forall_mem_cons.mpr ⟨accepted_of_inLanguage first (known first List.mem_cons_self),
      all_accepted others fun item mem => known item (List.mem_cons_of_mem _ mem)⟩

theorem compared_accepted : ∀ rest : List (CompareOp × Term),
    (∀ {op : CompareOp} {right : Term}, (op, right) ∈ rest → ∀ part : Term, part.Part right → part.InLanguage) →
      ∀ pair ∈ rest, refusal? pair.2 = none
  | [], _ => by simp
  | (_, first) :: others, known =>
    List.forall_mem_cons.mpr ⟨accepted_of_inLanguage first (known List.mem_cons_self),
      compared_accepted others fun mem => known (List.mem_cons_of_mem _ mem)⟩

end

/-- The check accepts the terms whose every part is of the language. -/
theorem refusal?_eq_none_iff : refusal? t = none ↔ ∀ part : Term, part.Part t → part.InLanguage :=
  ⟨fun accepted _ part => inLanguage_of_accepted (accepted_of_part part accepted), accepted_of_inLanguage t⟩

/-! ### What does not suit an operation -/

namespace Value

mutual

/-- Values that cannot be brought into an order are of types that have none. -/
theorem related_error {r : Relation} : ∀ {a b : Value}, related r a b = .error fault → fault.isOfType = true := by
  intro a b failed
  unfold related at failed
  split at failed
  · cases failed
  · cases failed
  · exact relatedItems_error failed
  · exact relatedItems_error failed
  · split at failed
    · split at failed <;> cases failed
    · cases failed
      rfl

theorem relatedItems_error {r : Relation} :
    ∀ {as bs : List Value}, relatedItems r as bs = .error fault → fault.isOfType = true := by
  intro as bs failed
  unfold relatedItems at failed
  split at failed
  · cases failed
  · cases failed
  · cases failed
  · split at failed
    · exact relatedItems_error failed
    · exact related_error failed

end

/-- A container that cannot be searched for a value is of a type that cannot be, unless a number beyond all bytes is
looked for among bytes. -/
theorem isIn_error (failed : isIn l r = .error fault) :
    fault.isOfType = true ∨
      ∃ n bs, l = .int n ∧ r = .bytes bs ∧ ¬ (0 ≤ n ∧ n < 256) ∧ fault = .byteRange := by
  unfold isIn at failed
  split at failed
  · split at failed <;> cases failed
    exact .inl rfl
  · split at failed
    · cases failed
    · rw [hasByte] at failed
      split at failed <;> cases failed
      exact .inr ⟨_, _, rfl, rfl, ‹_›, rfl⟩
    · rename_i b
      cases b <;> cases failed
    · cases failed
      exact .inl rfl
  · cases failed
  · cases failed
  · split at failed
    · cases failed
      exact .inl rfl
    · split at failed <;> cases failed
  · cases failed
    exact .inl rfl

theorem negate_error {v : Value} (failed : v.negate = .error fault) : fault.isOfType = true := by
  unfold negate at failed
  split at failed <;> cases failed
  rfl

end Value

/-- A comparison by a supported operator fails by the types of the operands, or because a number beyond all bytes is
looked for among bytes. -/
theorem compareBy_error (supported : op.isSupported = true) (failed : compareBy op l r = .error fault) :
    fault.isOfType = true ∨ ((op = .isIn ∨ op = .notIn) ∧
      ∃ n bs, l = .int n ∧ r = .bytes bs ∧ ¬ (0 ≤ n ∧ n < 256) ∧ fault = .byteRange) := by
  cases op with
  | eq | ne => cases failed
  | lt | le | gt | ge => exact .inl (Value.related_error failed)
  | isIn => exact (Value.isIn_error failed).imp_right fun byte => ⟨.inl rfl, byte⟩
  | notIn =>
    have failed : (Value.isIn l r).map (!·) = .error fault := failed
    cases found : Value.isIn l r with
    | ok b =>
      rw [found] at failed
      cases failed
    | error cause =>
      rw [found] at failed
      cases failed
      exact (Value.isIn_error found).imp_right fun byte => ⟨.inr rfl, byte⟩
  | same | notSame => cases supported

theorem Term.Compares.clash (compares : t.Compares context op l r) (failed : compareBy op l r = .error fault) :
    t.Clash context fault := by
  rcases compareBy_error compares.supported failed with ofType | ⟨membership, n, bs, rfl, rfl, beyond, rfl⟩
  · exact .comparison compares failed ofType
  · exact .byte compares membership beyond

/-! ### What fails in an evaluation -/

theorem error_of_bind {ε α β : Type} {x : Except ε α} {f : α → Except ε β} {e : ε} (failed : (x >>= f) = .error e) :
    x = .error e ∨ ∃ a, x = .ok a ∧ f a = .error e := by
  cases x with
  | error cause =>
    cases failed
    exact .inl rfl
  | ok a => exact .inr ⟨a, rfl, failed⟩

/-- Where a chain of comparisons fails, an operand has no value or two operands do not suit each other. -/
theorem evalCompared_error {a : Term} {v : Value} (value : a.eval context = .ok v) :
    ∀ {rest : List (CompareOp × Term)}, Term.evalCompared context v rest = .error fault →
      (∃ pair ∈ rest, pair.2.eval context = .error fault) ∨
        ∃ first op second l r, (first, op, second) ∈ comparisons a rest ∧ first.eval context = .ok l ∧
          second.eval context = .ok r ∧ compareBy op l r = .error fault := by
  intro rest failed
  induction rest generalizing a v with
  | nil => cases failed
  | cons pair rest ih =>
    obtain ⟨op, b⟩ := pair
    rw [Term.evalCompared] at failed
    rcases error_of_bind failed with operand | ⟨w, second, failed⟩
    · exact .inl ⟨_, List.mem_cons_self, operand⟩
    · rcases error_of_bind failed with comparison | ⟨holds, -, failed⟩
      · exact .inr ⟨a, op, b, v, w, List.mem_cons_self, value, second, comparison⟩
      · cases holds with
        | false => cases failed
        | true =>
          rcases ih second failed with ⟨pair, mem, operand⟩ | ⟨first, op, second, l, r, mem, found⟩
          · exact .inl ⟨pair, List.mem_cons_of_mem _ mem, operand⟩
          · exact .inr ⟨first, op, second, l, r, List.mem_cons_of_mem _ mem, found⟩

/-- Where parts are evaluated one after the other, one of them fails. -/
theorem evalAll_error {items : List Term} (failed : Term.evalAll context items = .error fault) :
    ∃ item ∈ items, item.eval context = .error fault := by
  induction items with
  | nil => cases failed
  | cons item items ih =>
    rw [Term.evalAll] at failed
    rcases error_of_bind failed with first | ⟨v, -, failed⟩
    · exact ⟨item, List.mem_cons_self, first⟩
    · split at failed
      · obtain ⟨other, mem, found⟩ := ih failed
        exact ⟨other, List.mem_cons_of_mem _ mem, found⟩
      · cases failed

theorem evalAny_error {items : List Term} (failed : Term.evalAny context items = .error fault) :
    ∃ item ∈ items, item.eval context = .error fault := by
  induction items with
  | nil => cases failed
  | cons item items ih =>
    rw [Term.evalAny] at failed
    rcases error_of_bind failed with first | ⟨v, -, failed⟩
    · exact ⟨item, List.mem_cons_self, first⟩
    · split at failed
      · cases failed
      · obtain ⟨other, mem, found⟩ := ih failed
        exact ⟨other, List.mem_cons_of_mem _ mem, found⟩

theorem evalItems_error {items : List Term} (failed : Term.evalItems context items = .error fault) :
    ∃ item ∈ items, item.eval context = .error fault := by
  induction items with
  | nil => cases failed
  | cons item items ih =>
    rw [Term.evalItems] at failed
    rcases error_of_bind failed with first | ⟨v, -, failed⟩
    · exact ⟨item, List.mem_cons_self, first⟩
    · rcases error_of_bind failed with others | ⟨vs, -, failed⟩
      · obtain ⟨other, mem, found⟩ := ih others
        exact ⟨other, List.mem_cons_of_mem _ mem, found⟩
      · cases failed

/-- An accepted term fails by an operation in it that does not suit its operands. -/
theorem clash_of_eval (t : Term) (accepted : refusal? t = none) (failed : t.eval context = .error fault) :
    t.Clash context fault := by
  -- what fails in a direct part of the term has failed there by an operation
  have within (part : Term) (smaller : sizeOf part < sizeOf t) (inside : part.Part t)
      (failed : part.eval context = .error fault) : t.Clash context fault :=
    (clash_of_eval part (accepted_of_part inside accepted) failed).of_part inside
  have item {items : List Term} (smaller : sizeOf items < sizeOf t) (inside : ∀ part ∈ items, part.Part t) :
      (∃ part ∈ items, part.eval context = .error fault) → t.Clash context fault := by
    rintro ⟨part, mem, failed⟩
    exact within part (Nat.lt_trans (List.sizeOf_lt_of_mem mem) smaller) (inside part mem) failed
  cases t with
  | constant | name => cases failed
  | «attribute» value member =>
    rw [Term.eval] at failed
    rcases error_of_bind failed with owner | ⟨v, -, failed⟩
    · exact within value (by simp; omega) (.owner .self) owner
    · cases failed
  | subscript value key =>
    obtain ⟨c, rfl⟩ := inLanguage_of_accepted accepted
    rw [Term.eval] at failed
    rcases error_of_bind failed with container | ⟨v, -, failed⟩
    · exact within value (by simp; omega) (.container .self) container
    · cases failed
  | compare left rest =>
    obtain ⟨supported, -, -⟩ := refusal?_compare.mp accepted
    rw [Term.eval] at failed
    rcases error_of_bind failed with first | ⟨v, value, failed⟩
    · exact within left (by simp; omega) (.left .self) first
    · rcases error_of_bind failed with chain | ⟨holds, -, failed⟩
      · rcases evalCompared_error value chain with ⟨⟨op, right⟩, mem, operand⟩ |
          ⟨a, op, b, l, r, mem, first, second, failed⟩
        · have smaller := List.sizeOf_lt_of_mem mem
          simp only [Prod.mk.sizeOf_spec] at smaller
          exact within right (by simp; omega) (.compared mem .self) operand
        · have known : op.isSupported = true := supported (op, b) (List.of_mem_zip mem).2
          exact Term.Compares.clash ⟨⟨left, rest, a, b, .self, mem, first, second⟩, known⟩ failed
      · cases failed
  | junction j items =>
    cases j with
    | all =>
      rw [Term.eval] at failed
      rcases error_of_bind failed with part | ⟨b, -, failed⟩
      · exact item (by simp) (fun part mem => .junction mem .self) (evalAll_error part)
      · cases failed
    | any =>
      rw [Term.eval] at failed
      rcases error_of_bind failed with part | ⟨b, -, failed⟩
      · exact item (by simp) (fun part mem => .junction mem .self) (evalAny_error part)
      · cases failed
  | unary op operand =>
    rcases inLanguage_of_accepted accepted with rfl | ⟨rfl, c, rfl⟩
    · rw [Term.eval] at failed
      rcases error_of_bind failed with inner | ⟨v, -, failed⟩
      · exact within operand (by simp) (.operand .self) inner
      · cases failed
    · have failed : c.value.negate = .error fault := failed
      exact .negation .self failed (Value.negate_error failed)
  | list items =>
    rw [Term.eval] at failed
    rcases error_of_bind failed with part | ⟨vs, -, failed⟩
    · exact item (by simp) (fun part mem => .listed mem .self) (evalItems_error part)
    · cases failed
  | tuple items =>
    rw [Term.eval] at failed
    rcases error_of_bind failed with part | ⟨vs, -, failed⟩
    · exact item (by simp) (fun part mem => .tupled mem .self) (evalItems_error part)
    · cases failed
  | starred | foreign => cases accepted
termination_by sizeOf t

theorem Term.Clash.ne_element (clash : t.Clash context fault) (name : String) : fault ≠ .element name := by
  rintro rfl
  cases clash with
  | comparison _ _ ofType | negation _ _ ofType => cases ofType

/-- The check accepts a term if every part of it is of the language. Then no part is of a construct that the evaluation
does not know, whether the evaluation of the whole comes to it or passes it over, and a part that has no value has none
because an operation in it does not suit its operands. -/
theorem covers_same_forms (t : Term) (context : Members) :
    (refusal? t = none ↔ ∀ part : Term, part.Part t → part.InLanguage) ∧
      (refusal? t = none → ∀ part : Term, part.Part t →
        (∀ name, part.eval context ≠ .error (.element name)) ∧
          ∀ fault, part.eval context = .error fault → part.Clash context fault) := by
  refine ⟨refusal?_eq_none_iff, fun accepted part inside => ?_⟩
  have clash (fault : EvalFault) (failed : part.eval context = .error fault) : part.Clash context fault :=
    clash_of_eval part (accepted_of_part inside accepted) failed
  exact ⟨fun name failed => (clash _ failed).ne_element name rfl, clash⟩

end TriggerFlow.Expr

namespace TriggerFlow.Trial

open TriggerFlow.Expr

/-- A comparison, and a text with a sign in front where it does not hold. -/
def fewOrSigned : Term :=
  .junction .any [.compare (.name "n") [(.lt, .constant (.int 3))], .unary .minus (.constant (.text "x"))]

theorem few_or_signed :
    refusal? fewOrSigned = none ∧ fewOrSigned.eval [("n", .int 1)] = .ok (.bool true) ∧
      fewOrSigned.eval [("n", .int 5)] = .error (.notNegatable "str") ∧
        fewOrSigned.Clash [("n", .int 5)] (.notNegatable "str") :=
  ⟨rfl, rfl, rfl, ((covers_same_forms fewOrSigned [("n", .int 5)]).2 rfl fewOrSigned .self).2 _ rfl⟩

/-- A number beyond all bytes, looked for among bytes. -/
def beyondBytes : Term := .compare (.constant (.int 300)) [(.isIn, .constant (.bytes [97, 98, 99]))]

/-- The types of the operands suit the search, and still it fails. -/
theorem beyond_bytes :
    refusal? beyondBytes = none ∧ beyondBytes.eval [] = .error .byteRange ∧ EvalFault.byteRange.isOfType = false ∧
      holds "300 in b'abc'" [] = .error (.failed "300 in b'abc'" .byteRange) :=
  ⟨rfl, rfl, rfl, by decide +kernel⟩

end TriggerFlow.Trial
