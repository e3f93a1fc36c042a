import TriggerFlow.Proofs.Automation.Validated
import TriggerFlow.Proofs.Trigger.Watch

/-!
# Events reach those that listen

An event launches one run for each enabled workflow whose trigger listens to it and whose filter, if there is one, holds
on the payload; it does so in the order of the store, and launches nothing else. A filter that cannot be evaluated holds
its own workflow back, and a launch that fails is left out of the answer; neither matters to any other workflow.
-/

namespace TriggerFlow

namespace Trigger

variable {t : Trigger} {event : String}

/-- An event is meant for a trigger: it listens to the event, and its filter holds on the payload or is missing. A
filter that cannot be evaluated does not hold. -/
def hears (t : Trigger) (event : String) (payload : Members) : Bool :=
  t.listens event && t.filter?.all fun text => outcome text payload = some true

/-- The filter of a trigger that can be used has an answer. -/
theorem accepts_eq (checked : Graph.checkTrigger t = .ok ()) (listens : t.listens event = true) (payload : Members) :
    t.accepts payload = .ok (t.filter?.all fun text => outcome text payload = some true) := by
  rw [Trigger.listens, Bool.and_eq_true, decide_eq_true_eq, decide_eq_true_eq] at listens
  rw [accepts]
  cases written : t.filter? with
  | none => rfl
  | some text =>
    have compiles : Expr.compile text ≠ .error .zeroCharacter := by
      simp only [Graph.checkTrigger, listens.1, listens.2, written] at checked
      exact Graph.compile_of_checkExpression checked
    simp only [value?_of_compiles compiles, Option.all_some]
    cases outcome text payload with
    | none => rfl
    | some holds => cases holds <;> rfl

end Trigger

namespace Launcher

/-- The workflows that an event is meant for, in order. -/
def audience (ws : List Workflow) (event : String) (payload : Members) : List Workflow :=
  ((listeners ws).filter fun p => p.2.hears event payload).map Prod.fst

theorem mem_audience {ws : List Workflow} {event : String} {payload : Members} {w : Workflow} :
    w ∈ audience ws event payload ↔
      w ∈ ws ∧ w.enabled = true ∧ ∃ node t, w.trigger? = some (node, t) ∧ t.hears event payload = true := by
  simp only [audience, List.mem_map, List.mem_filter, mem_listeners]
  constructor
  · rintro ⟨⟨_, t⟩, ⟨⟨mem, enabled, node, found⟩, hears⟩, rfl⟩
    exact ⟨mem, enabled, node, t, found, hears⟩
  · rintro ⟨mem, enabled, node, t, found, hears⟩
    exact ⟨(w, t), ⟨⟨mem, enabled, node, found⟩, hears⟩, rfl⟩

/-- The request to launch a workflow for an event. -/
def onEvent (payload : Members) (w : Workflow) : Asking := ⟨w, .event, payload⟩

/-- Whatever launches come to, those are asked for that the event is meant for, and the answer is what comes of them. -/
theorem deliver_eq {S : Type} {l : Launcher S} {s : Store} {ws : List Workflow} (lists : Lists s ws) {a : S}
    (looked : (l.inStore listening a).1 = (listening s).1) (event : String) (payload : Members) :
    let askings := (audience ws event payload).map (onEvent payload)
    let b := (l.inStore listening a).2
    l.deliver event payload a = (.ok (l.meet askings b).1, (l.meet askings b).2) ∧
      asked (l.noting.deliver event payload) a = askings := by
  have found : (listening s).1 = .ok (listeners ws) := by
    rcases run : listening s with ⟨_ | found, s'⟩
    · exact (lists.listening.of_error run).elim
    · rw [(lists.listening.of_ok run).1]
  have answers : ∀ p ∈ listeners ws, p.2.listens event = true → p.2.accepts payload =
      .ok (p.2.filter?.all fun text => Trigger.outcome text payload = some true) :=
    fun p mem listens => Trigger.accepts_eq (lists.checked p mem) listens payload
  have delivered := deliver_of_listening (Prod.ext (looked.trans found) rfl : l.inStore listening a = (_, _)) answers
  have same : ((listeners ws).filter fun p => p.2.listens event && p.2.filter?.all fun text =>
      Trigger.outcome text payload = some true).map (heard payload) =
        (audience ws event payload).map (onEvent payload) := by
    rw [audience, List.map_map]
    rfl
  rwa [same] at delivered

end Launcher

namespace Automation

open Run (Meanwhile SameRun)

variable {δ : Type} {setup : Setup δ} {a b c : Automation δ} {past : List (Automation δ)} {payload : Members}

/-- What a launch of a run comes to. The record may have moved on if errands are carried out at once. -/
structure Begun (setup : Setup δ) (e : Execution) (a b : Automation δ) : Prop where
  steady : Steady setup b
  drawn_le : a.store.drawn ≤ b.store.drawn
  kept : ∀ id, (surroundings setup).Spares id → a.store.runs.get? id ≠ none → b.store.runs.get? id ≠ none
  drawn : b.store.Drawn e.id
  stored : (surroundings setup).Spares e.id → ∃ e', b.store.runs.get? e.id = some e' ∧ SameRun e e'
  others : Aside [e.id] a b
  queued : setup.eager = false → b.store.runs = a.store.runs.set e.id e

/-- An errand that is only taken in changes nothing in the store. -/
theorem submit_store (lazy : setup.eager = false) (errand : Errand) (a : Automation δ) :
    (submit setup errand a).2.store = a.store := by
  unfold submit
  rw [lazy, Act.bind_apply]
  dsimp only [Act.ask]
  split <;> rfl

/-- Of all runs, only those with the identifier of this one come from it. -/
def originOf (e : Execution) : Origin := .plain fun e' => e'.id = e.id → SameRun e e'

/-- What storing a new run comes to, before its errand is taken in. -/
structure Created (setup : Setup δ) (e : Execution) (a b : Automation δ) : Prop where
  reaches : Reaches setup (originOf e) a b
  runs : b.store.runs = a.store.runs.set e.id e
  drawn : b.store.Drawn e.id
  known : ∀ e', b.Holds e' → (originOf e).of e'

theorem Created.here {e : Execution} (created : Created setup e a b) : b.store.runs.get? e.id = some e := by
  rw [created.runs, Ordered.get?_set_self]

theorem createRun_created (steady : Steady setup a) (w : Workflow) (kind : TriggerKind) (payload : Members) :
    (inStore (Store.createRun w kind payload)).Ensures a
      (fun e b => e = .launched a.store.fresh w kind payload ∧ Created setup e a b) fun _ _ => False := by
  refine ensures_inStore.mpr ((Store.createRun_spec steady.orderly.kept w kind payload).mono ?_ fun _ _ none => none)
  rintro e s ⟨same, s₁, reruns, drawn, counted⟩
  have fresh : e.id = a.store.fresh.id := same ▸ rfl
  have runs : s.runs = a.store.runs.set e.id e := by rw [counted.runs, reruns.runs, fresh]
  have new : (originOf e).of (.launched a.store.fresh w kind payload) ∧ (originOf e).launches w kind payload :=
    ⟨fun _ => same ▸ .refl _, trivial⟩
  have motion : Motion setup (originOf e) a (a.withStore s) := .launched new (same ▸ reruns) drawn counted
  refine ⟨same, ⟨motion.moves, steady.prompt⟩, runs, ⟨a.store.drawn + 1, drawn.trans_le counted.drawn, fresh⟩, ?_⟩
  rintro e' (stored | ⟨errand, mem, rfl⟩) named
  · change s.runs.get? e'.id = some e' at stored
    rw [named, runs, Ordered.get?_set_self] at stored
    cases stored
    exact .refl e
  · have old := (steady.orderly.queue errand mem).1
    rw [← errand.record_id, named, fresh] at old
    exact absurd old a.store.not_drawn_fresh

theorem launch_begun (steady : Steady setup a) (w : Workflow) (kind : TriggerKind) (payload : Members) :
    (launch setup w kind payload).Ensures a
      (fun e b => e = .launched a.store.fresh w kind payload ∧ Begun setup e a b) fun _ _ => False := by
  refine Act.ensures_bind.mpr ((createRun_created steady w kind payload).mono ?_ fun _ _ none => none)
  rintro e a₁ ⟨same, created⟩
  have steady₁ := created.reaches.steady steady
  have present₁ : a₁.store.runs.get? e.id ≠ none := by simp [created.here]
  have submitted := submit_walks (originOf e) steady₁ (.start e) (fun _ => .refl e) created.drawn
    (show Meanwhile _ (a₁.store.runs.get? e.id) from created.here ▸ .same _) fun _ => present₁
  refine Act.ensures_bind.mpr ((submitted.and (Act.Ensures.run _ _)).mono ?_ fun _ _ none => none.1.elim)
  rintro _ b ⟨⟨reaches, aside⟩, ran⟩
  have whole := created.reaches.trans reaches
  have le := reaches.moves.drawn_le steady₁.orderly
  refine ⟨same, reaches.steady steady₁, whole.moves.drawn_le steady.orderly,
    fun id spares present => whole.moves.kept steady.orderly spares present, created.drawn.mono le, ?_, ?_, ?_⟩
  · intro spares
    obtain ⟨e', stored⟩ := Option.ne_none_iff_exists'.mp (reaches.moves.kept steady₁.orderly spares present₁)
    have label := (reaches.steady steady₁).orderly.kept.runs.label_eq stored
    have alike : ∀ e₁ e₂, SameRun e₁ e₂ → (originOf e).of e₁ → (originOf e).of e₂ := fun e₁ e₂ same own here =>
      (own (same.id.symm.trans here)).trans same
    exact ⟨e', stored, reaches.moves.origin_of_holds alike steady₁.orderly created.known e' (.inl (label ▸ stored)) label⟩
  · intro id other
    have before : a₁.store.runs.get? id = a.store.runs.get? id := by
      rw [created.runs, Ordered.get?_set, Function.update_of_ne (by simpa using other)]
    exact before ▸ aside id other
  · intro lazy
    have after := submit_store lazy (.start e) a₁
    rw [ran] at after
    rw [after, created.runs]

/-- What launches come to, one after the other. Each run is a new one, and no others come to be. Unless errands are
carried out at once, the records are stored as they were launched, and nothing else is. -/
structure Starts (setup : Setup δ) (askings : List Asking) (a : Automation δ) (es : List Execution)
    (b : Automation δ) : Prop where
  launched : List.Forall₂ (fun asking e =>
    ∃ fresh, e = .launched fresh asking.workflow asking.kind asking.payload) askings es
  new : ∀ e ∈ es, ¬ a.store.Drawn e.id
  distinct : (es.map Execution.id).Nodup
  stored : ∀ e ∈ es, (surroundings setup).Spares e.id → ∃ e', b.store.runs.get? e.id = some e' ∧ SameRun e e'
  others : Aside (es.map Execution.id) a b
  kept : ∀ id, (surroundings setup).Spares id → a.store.runs.get? id ≠ none → b.store.runs.get? id ≠ none
  queued : setup.eager = false → b.store.runs = es.foldl (fun runs e => runs.set e.id e) a.store.runs

/-- A launch is followed by others. -/
theorem Starts.cons {asking : Asking} {askings : List Asking} {e : Execution} {es : List Execution}
    (same : e = .launched a.store.fresh asking.workflow asking.kind asking.payload) (begun : Begun setup e a b)
    (rest : Starts setup askings b es c) : Starts setup (asking :: askings) a (e :: es) c := by
  have fresh : e.id = a.store.fresh.id := same ▸ rfl
  have apart : e.id ∉ es.map Execution.id := by
    intro mem
    obtain ⟨later, mem, again⟩ := List.mem_map.mp mem
    exact rest.new later mem (again ▸ begun.drawn)
  constructor
  case launched => exact .cons ⟨_, same⟩ rest.launched
  case new =>
    intro later mem
    rcases List.mem_cons.mp mem with rfl | mem
    · exact fresh ▸ a.store.not_drawn_fresh
    · exact fun old => rest.new later mem (old.mono begun.drawn_le)
  case distinct => exact List.nodup_cons.mpr ⟨apart, rest.distinct⟩
  case stored =>
    intro later mem spares
    rcases List.mem_cons.mp mem with rfl | mem
    · obtain ⟨e', there, own⟩ := begun.stored spares
      have present := rest.kept _ spares (show b.store.runs.get? later.id ≠ none by simp [there])
      obtain ⟨e'', stored⟩ := Option.ne_none_iff_exists'.mp present
      have alike := (rest.others _ apart).own (c := later) (fun e here => by cases there.symm.trans here; exact own)
      exact ⟨e'', stored, alike e'' stored⟩
    · exact rest.stored later mem spares
  case others =>
    intro id other
    rw [List.map_cons, List.mem_cons, not_or] at other
    exact (begun.others id (by simpa using other.1)).trans (rest.others id other.2)
  case kept => exact fun id spares present => rest.kept id spares (begun.kept id spares present)
  case queued =>
    intro lazy
    rw [rest.queued lazy, begun.queued lazy]
    rfl

theorem meet_starts : ∀ (askings : List Asking) {a : Automation δ}, Steady setup a →
    ∃ es b, (launcher setup).meet askings a = (es, b) ∧ Starts setup askings a es b
  | [], a, _ => ⟨[], a, rfl, .nil, by simp, List.nodup_nil, by simp, fun _ _ => .same _,
      fun _ _ present => present, fun _ => rfl⟩
  | asking :: askings, a, steady => by
    rcases run : launch setup asking.workflow asking.kind asking.payload a with ⟨_ | e, b⟩
    · exact ((launch_begun steady _ _ _).of_error run).elim
    obtain ⟨same, begun⟩ := (launch_begun steady _ _ _).of_ok run
    obtain ⟨es, c, met, rest⟩ := meet_starts askings begun.steady
    refine ⟨e :: es, c, ?_, .cons same begun rest⟩
    have here : (launcher setup).met asking a = (.ok e, b) := run
    rw [Launcher.meet, here]
    simp only [met]
    rfl

/-- What the launches of runs for an event come to, one after the other. Each run is a new one, and no others come to
be. Unless errands are carried out at once, the records are stored as they were launched, and nothing else is. -/
structure Delivered (setup : Setup δ) (payload : Members) (ws : List Workflow) (a : Automation δ) (es : List Execution)
    (b : Automation δ) : Prop where
  launched : List.Forall₂ (fun w e => ∃ fresh, e = .launched fresh w .event payload) ws es
  new : ∀ e ∈ es, ¬ a.store.Drawn e.id
  distinct : (es.map Execution.id).Nodup
  stored : ∀ e ∈ es, (surroundings setup).Spares e.id → ∃ e', b.store.runs.get? e.id = some e' ∧ SameRun e e'
  others : Aside (es.map Execution.id) a b
  kept : ∀ id, (surroundings setup).Spares id → a.store.runs.get? id ≠ none → b.store.runs.get? id ≠ none
  queued : setup.eager = false → b.store.runs = es.foldl (fun runs e => runs.set e.id e) a.store.runs

theorem meet_delivered (payload : Members) (ws : List Workflow) (steady : Steady setup a) :
    ∃ es b, (launcher setup).meet (ws.map (Launcher.onEvent payload)) a = (es, b) ∧
      Delivered setup payload ws a es b := by
  obtain ⟨es, b, met, begun⟩ := meet_starts (ws.map (Launcher.onEvent payload)) steady
  exact ⟨es, b, met, List.forall₂_map_left_iff.mp begun.launched, begun.new, begun.distinct, begun.stored, begun.others,
    begun.kept, begun.queued⟩

theorem Session.workflows (session : Session setup past a) :
    Store.workflows a.store = (.ok a.store.definitions.values, a.store) := by
  have listed := Store.workflows_spec session.steady.orderly.kept
  rcases run : Store.workflows a.store with ⟨_ | found, s⟩
  · exact (listed.of_error run).elim
  · obtain ⟨rfl, rfl⟩ := listed.of_ok run
    rfl

/-- A session lists workflows with different identifiers, and those that are enabled are valid. -/
theorem Session.lists (session : Session setup past a) : Launcher.Lists a.store a.store.definitions.values := by
  have kept := session.steady.orderly.kept
  refine ⟨by rw [session.workflows], kept.definitions.values_nodup, fun w mem enabled => ?_⟩
  exact session.sound a List.mem_cons_self w.id w (kept.definitions.get?_label mem) enabled

/-- To look for those that listen changes nothing. -/
theorem Session.listening (session : Session setup past a) : (inStore Launcher.listening a).2 = a := by
  have found : Launcher.listening a.store = (.ok (Launcher.listeners a.store.definitions.values), a.store) :=
    Act.bind_run_ok session.workflows _
  change a.withStore (Launcher.listening a.store).2 = a
  rw [found]
  rfl

/-- The runs are those of the workflows, one by one. -/
theorem Delivered.workflowIds {ws : List Workflow} {es : List Execution}
    (delivered : Delivered setup payload ws a es b) : es.map Execution.workflowId = ws.map Workflow.id := by
  have launched := delivered.launched
  clear delivered
  induction launched with
  | nil => rfl
  | cons same _ ih =>
    obtain ⟨fresh, rfl⟩ := same
    exact congrArg _ ih

/-- Of the workflows on offer those are launched that the event is meant for. -/
theorem Delivered.launched_iff {event : String} {es : List Execution} {s : Store} {w : Workflow} (kept : s.InMemory)
    (delivered : Delivered setup payload (Launcher.audience s.definitions.values event payload) a es b)
    (offered : Offered s w) : (∃ e ∈ es, e.workflowId = w.id) ↔
      ∃ node t, w.graph.trigger? = some (node, t) ∧ t.hears event payload = true := by
  rw [← List.mem_map, delivered.workflowIds, List.mem_map]
  constructor
  · rintro ⟨other, mem, named⟩
    obtain ⟨listed, -, node, t, found, hears⟩ := Launcher.mem_audience.mp mem
    have same := kept.definitions.get?_label listed
    rw [named, offered.1] at same
    cases same
    exact ⟨node, t, found, hears⟩
  · rintro ⟨node, t, found, hears⟩
    have listed : w ∈ s.definitions.values := List.mem_map.mpr ⟨_, Ordered.mem_of_get? offered.1, rfl⟩
    exact ⟨w, Launcher.mem_audience.mpr ⟨listed, offered.2, node, t, found, hears⟩, rfl⟩

theorem Session.emits (session : Session setup past a) (event : String) (payload : Members) :
    ∃ es b, emit setup event payload a = (.ok es, b) ∧
      Delivered setup payload (Launcher.audience a.store.definitions.values event payload) a es b := by
  obtain ⟨es, b, met, delivered⟩ :=
    meet_delivered payload (Launcher.audience a.store.definitions.values event payload) session.steady
  have whole := (Launcher.deliver_eq (l := launcher setup) session.lists rfl event payload).1
  have same : (launcher setup).inStore Launcher.listening a = inStore Launcher.listening a := rfl
  rw [same, session.listening, met] at whole
  exact ⟨es, b, whole, delivered⟩

end Automation

end TriggerFlow

namespace TriggerFlow.Trial

open Automation

/-- A trigger that listens to large orders. -/
def ordered : Trigger := ⟨.event, [("event", .text "order.created"), ("filter", .text "total > 100")]⟩

theorem ordered_sound : (quick ordered).defects = .ok [] :=
  Graph.defects_of_sorted (by decide +kernel) (by decide +kernel) (by decide +kernel)

end TriggerFlow.Trial
