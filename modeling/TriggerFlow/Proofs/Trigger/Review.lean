import TriggerFlow.Trigger.Launching
import TriggerFlow.Proofs.Graph.Valid
import TriggerFlow.Proofs.Run.Due
import TriggerFlow.Proofs.Trigger.Memory

/-!
# One look at all triggers

What a tick does before it launches anything. Over valid workflows with different identifiers it has an answer, and
what becomes of one of them depends on nothing but its own trigger, its own variables and what is remembered of it: not
on the other workflows, and not on whether the memory is kept in memory or in a file.
-/

namespace TriggerFlow

namespace Graph

variable {g : Graph}

theorem checkNode_of_misconfigured {nodes : List Node} (clean : misconfigured nodes = .ok []) :
    ∀ node ∈ nodes, checkNode node = .ok () := by
  induction nodes with
  | nil => simp
  | cons node rest ih =>
    rw [misconfigured] at clean
    split at clean
    · rename_i checked
      intro other mem
      rcases List.mem_cons.mp mem with rfl | mem
      · exact checked
      · exact ih clean other mem
    · cases clean
    · cases others : misconfigured rest <;> simp [others, Except.map] at clean

/-- The trigger of a valid graph can be used. -/
theorem checkTrigger_of_defects (sound : g.defects = .ok []) {node : Node} {t : Trigger}
    (found : g.trigger? = some (node, t)) : checkTrigger t = .ok () := by
  obtain ⟨-, mem, task⟩ := Valid.mem_of_trigger? found
  have clean : misconfigured g.nodes = .ok [] := by
    rw [defects] at sound
    cases checked : misconfigured g.nodes with
    | error fault => simp [checked, Except.map] at sound
    | ok more =>
      rw [checked] at sound
      have none : g.structural ++ more = [] := Except.ok.inj sound
      rw [(List.append_eq_nil_iff.mp none).2]
  have checked := checkNode_of_misconfigured clean node mem
  rwa [checkNode, task] at checked

theorem compile_of_checkExpression {text : String} (checked : checkExpression text = .ok ()) :
    Expr.compile text ≠ .error .zeroCharacter := by
  intro refused
  rw [checkExpression, refused] at checked
  cases checked

end Graph

namespace Trigger

variable {t : Trigger} {minute : Instant} {context vars payload : Members} {memory : TriggerMemory}

/-- The value of a condition on variables; nothing if it cannot be evaluated. -/
def outcome (text : String) (vars : Members) : Option Bool := (Expr.holds text vars).toOption

/-- What has been taken for an expression has a value, or nothing comes of it. -/
theorem value?_of_compiles {text : String} (compiles : Expr.compile text ≠ .error .zeroCharacter) (vars : Members) :
    value? (some text) vars = .ok (outcome text vars) := by
  rw [value?, outcome]
  cases held : Expr.holds text vars with
  | ok b => rfl
  | error fault =>
    dsimp only
    rw [if_pos (Expr.isExpression_of_holds compiles held)]
    rfl

/-- A look at a trigger that can be used. -/
def glance (t : Trigger) (minute : Instant) (context vars : Members) (memory : TriggerMemory) : Look :=
  match t.kind with
  | .schedule => lookAtSchedule t.schedule? minute memory
  | .conditional => lookAtValue memory (t.expression?.bind fun text => outcome text (Ordered.overlay vars context))
  | _ => ⟨false, memory⟩

theorem look_eq (checked : Graph.checkTrigger t = .ok ()) (minute : Instant) (context vars : Members)
    (memory : TriggerMemory) : t.look minute context vars memory = .ok (t.glance minute context vars memory) := by
  unfold look glance
  cases kind : t.kind with
  | conditional =>
    cases written : t.expression? with
    | none => rfl
    | some text =>
      have compiles : Expr.compile text ≠ .error .zeroCharacter := by
        simp only [Graph.checkTrigger, kind, written] at checked
        exact Graph.compile_of_checkExpression checked
      simp only [value?_of_compiles compiles, Option.bind_some]
      rfl
  | _ => rfl

/-- A look remembers no minute but the one in which it happens. -/
theorem lastMinute_glance (t : Trigger) (minute : Instant) (context vars : Members) (memory : TriggerMemory) :
    (t.glance minute context vars memory).memory.lastMinute = memory.lastMinute ∨
      (t.glance minute context vars memory).memory.lastMinute = some minute := by
  unfold glance
  split
  · unfold lookAtSchedule
    split
    · exact .inl rfl
    · split_ifs
      · exact .inl rfl
      · exact .inl rfl
      · exact .inr rfl
  · unfold lookAtValue
    split <;> exact .inl rfl
  · exact .inl rfl

end Trigger

namespace Launcher

variable {minute : Instant} {context : Members}

/-- A look at a workflow with a trigger. -/
def seen (minute : Instant) (context : Members) (remembered : String → TriggerMemory) (p : Workflow × Trigger) :
    Trigger.Look := p.2.glance minute context p.1.vars (remembered p.1.id)

/-- The memory of a mapping at an identifier. -/
def recalled (memories : Ordered TriggerMemory) (id : String) : TriggerMemory := (memories.get? id).getD .blank

/-- What comes of a look at all triggers. -/
structure Reviewed (minute : Instant) (context : Members) (found : List (Workflow × Trigger))
    (memories : Ordered TriggerMemory) (firing : List Workflow) (after : Ordered TriggerMemory) : Prop where
  fires : firing = (found.filter fun p => (seen minute context (recalled memories) p).fires).map Prod.fst
  looked : ∀ p ∈ found, after.get? p.1.id = some (seen minute context (recalled memories) p).memory
  others : ∀ id, (∀ p ∈ found, p.1.id ≠ id) → after.get? id = memories.get? id
  nodup : memories.keys.Nodup → after.keys.Nodup
  source : ∀ pair ∈ after, pair ∈ memories ∨
    ∃ p ∈ found, pair.2 = (seen minute context (recalled memories) p).memory

section Cons

variable {w : Workflow} {t : Trigger} {rest : List (Workflow × Trigger)} {memories after : Ordered TriggerMemory}
  {firing : List Workflow}

/-- What is remembered of one workflow does not matter to a look at others. -/
theorem seen_set_of_ne {p : Workflow × Trigger} (ne : w.id ≠ p.1.id) (memory : TriggerMemory) :
    seen minute context (recalled (memories.set w.id memory)) p = seen minute context (recalled memories) p := by
  simp only [seen, recalled, Ordered.get?_set_of_ne _ _ ne]

/-- One more trigger is looked at, before the others. -/
theorem Reviewed.cons (new : w.id ∉ rest.map fun p => p.1.id) (reviewed : Reviewed minute context rest
      (memories.set w.id (seen minute context (recalled memories) (w, t)).memory) firing after) :
    Reviewed minute context ((w, t) :: rest) memories
      (if (seen minute context (recalled memories) (w, t)).fires then w :: firing else firing) after := by
  have apart : ∀ p ∈ rest, seen minute context (recalled (memories.set w.id
      (seen minute context (recalled memories) (w, t)).memory)) p = seen minute context (recalled memories) p :=
    fun p mem => seen_set_of_ne (fun same => new (List.mem_map.mpr ⟨p, mem, same.symm⟩)) _
  constructor
  case fires =>
    have same : rest.filter (fun p => (seen minute context (recalled memories) p).fires) = rest.filter _ :=
      List.filter_congr fun p mem => by rw [← apart p mem]
    rw [List.filter_cons, same, reviewed.fires]
    split <;> rfl
  case looked =>
    intro p mem
    rcases List.mem_cons.mp mem with rfl | mem
    · have last := reviewed.others w.id fun p mem same => new (List.mem_map.mpr ⟨p, mem, same⟩)
      exact last.trans (Ordered.get?_set_self ..)
    · rw [reviewed.looked p mem, apart p mem]
  case others =>
    intro id none
    rw [reviewed.others id fun p mem => none p (List.mem_cons_of_mem _ mem)]
    exact Ordered.get?_set_of_ne _ _ (none _ (List.mem_cons_self ..))
  case nodup =>
    intro nodup
    exact reviewed.nodup (Ordered.nodup_set nodup _ _)
  case source =>
    intro pair mem
    rcases reviewed.source pair mem with old | ⟨p, mem, same⟩
    · rcases Ordered.mem_of_mem_set old with old | rfl
      · exact .inl old
      · exact .inr ⟨(w, t), List.mem_cons_self .., rfl⟩
    · exact .inr ⟨p, List.mem_cons_of_mem _ mem, by rw [same, apart p mem]⟩

end Cons

/-- A look at all triggers has an answer, in which none of them matters to another. -/
theorem review_spec (minute : Instant) (context : Members) {found : List (Workflow × Trigger)}
    (checked : ∀ p ∈ found, Graph.checkTrigger p.2 = .ok ()) (distinct : (found.map fun p => p.1.id).Nodup)
    (memories : Ordered TriggerMemory) : ∃ firing after,
      review minute context found memories = .ok (firing, after) ∧
        Reviewed minute context found memories firing after := by
  induction found generalizing memories with
  | nil => exact ⟨[], memories, rfl, rfl, by simp, fun _ _ => rfl, id, fun pair mem => .inl mem⟩
  | cons p rest ih =>
    obtain ⟨w, t⟩ := p
    obtain ⟨new, distinct⟩ := List.nodup_cons.mp distinct
    have here : t.look minute context w.vars ((memories.get? w.id).getD .blank) =
        .ok (seen minute context (recalled memories) (w, t)) :=
      Trigger.look_eq (checked (w, t) (List.mem_cons_self ..)) ..
    obtain ⟨firing, after, answer, reviewed⟩ := ih (fun p mem => checked p (List.mem_cons_of_mem _ mem)) distinct
      (memories.set w.id (seen minute context (recalled memories) (w, t)).memory)
    refine ⟨_, after, ?_, reviewed.cons new⟩
    rw [review, here]
    dsimp only [bind, Except.bind]
    rw [answer]
    rfl

end Launcher

end TriggerFlow
