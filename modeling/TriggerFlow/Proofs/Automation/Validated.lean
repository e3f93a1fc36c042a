import TriggerFlow.Proofs.Automation.Session

/-!
# Only graphs without defects are run

Ticks and events launch workflows without another look at their graphs. They rely on the edits of definitions:
whatever is enabled has a graph without defects, at every point of every session, and so has every run, for its
graph is that of a workflow that was enabled when the run was launched.
-/

namespace TriggerFlow

open Run (Meanwhile SameRun)

/-- Every workflow that is enabled has a graph without defects. -/
def Store.Sound (s : Store) : Prop :=
  ∀ id w, s.definitions.get? id = some w → w.enabled = true → w.graph.defects = .ok []

theorem Store.Edits.keeps_sound {s s' : Store} (edits : s.Edits s') (sound : s.Sound) : s'.Sound := by
  intro id w stored enabled
  rcases edits.sound id w stored enabled with defects | ⟨old, present, on, same⟩
  · exact defects
  · exact same ▸ sound id old present on

theorem Store.Sound.of_definitions {s s' : Store} (sound : s.Sound) (same : s'.definitions = s.definitions) :
    s'.Sound := fun id w stored enabled => sound id w (same ▸ stored) enabled

namespace Automation

variable {δ : Type} {setup : Setup δ} {origin : Origin} {a b : Automation δ}
  {past : List (Automation δ)} {e e' : Execution}

/-- No move enables a workflow whose graph has defects. -/
theorem Move.sound (move : Move setup origin a b) (orderly : Orderly a) (sound : a.store.Sound) :
    b.store.Sound := by
  cases move with
  | edited edits => exact edits.keeps_sound sound
  | launched new reruns drawn => exact sound.of_definitions reruns.definitions
  | queued => exact sound
  | carried queue => exact sound.of_definitions (orderly.drive_first setup queue).around.drift.1
  | asked id =>
    exact sound.of_definitions (Run.requestCancel_spec (k := ledger setup) orderly.kept id).state.drift.1

theorem Moves.sound (moves : Moves setup origin a b) (orderly : Orderly a) (sound : a.store.Sound) :
    b.store.Sound := by
  induction moves with
  | refl => exact sound
  | tail earlier move ih => exact move.sound (Moves.orderly earlier orderly) ih

/-- The graph of a run was taken from a workflow that was stored and enabled. -/
def TakenFrom (s : Store) (e : Execution) : Prop := ∃ w, Offered s w ∧ w.id = e.workflowId ∧ w.graph = e.graph

theorem TakenFrom.sameRun {s : Store} (taken : TakenFrom s e) (same : SameRun e e') : TakenFrom s e' := by
  obtain ⟨w, offered, own, graph⟩ := taken
  exact ⟨w, offered, own.trans same.workflow.symm, graph.trans same.graph.symm⟩

/-- Among the states that have followed each other, the latest first, there are two between which a run was
launched: its identifier was drawn there, and its graph taken from a workflow that was enabled. -/
def Launched (states : List (Automation δ)) (e : Execution) : Prop :=
  ∃ later after before earlier, states = later ++ after :: before :: earlier ∧
    ¬ before.store.Drawn e.id ∧ after.store.Drawn e.id ∧ TakenFrom before.store e

namespace Launched

variable {states : List (Automation δ)}

theorem sameRun (launched : Launched states e) (same : SameRun e e') : Launched states e' := by
  obtain ⟨later, after, before, earlier, all, undrawn, drawn, taken⟩ := launched
  rw [← same.id] at undrawn drawn
  exact ⟨later, after, before, earlier, all, undrawn, drawn, taken.sameRun same⟩

theorem cons (launched : Launched states e) (a : Automation δ) : Launched (a :: states) e := by
  obtain ⟨later, after, before, earlier, rfl, found⟩ := launched
  exact ⟨a :: later, after, before, earlier, rfl, found⟩

theorem mem (launched : Launched states e) : ∃ before ∈ states, TakenFrom before.store e := by
  obtain ⟨later, after, before, earlier, rfl, -, -, taken⟩ := launched
  exact ⟨before, by simp, taken⟩

end Launched

/-- What a request finds or brings about: runs that were launched before, and runs that are launched now. -/
theorem sources_launched (known : ∀ e, a.Holds e → Launched (a :: past) e) (request : Request) :
    Sources (.plain fun e => Launched (a :: past) e ∨ ¬ a.store.Drawn e.id ∧ TakenFrom a.store e) a request where
  same e e' same found := by
    rcases found with launched | ⟨undrawn, taken⟩
    · exact .inl (launched.sameRun same)
    · exact .inr ⟨same.id.symm ▸ undrawn, taken.sameRun same⟩
  admits w _ _ offered _ := ⟨trivial, fun _ undrawn => .inr ⟨undrawn, w, offered, rfl, rfl⟩⟩
  known e held := .inl (known e held)

theorem Orderly.drawn_of_holds (orderly : Orderly a) (held : a.Holds e) : a.store.Drawn e.id := by
  rcases held with stored | ⟨errand, mem, rfl⟩
  · exact orderly.runs e.id (by simp [stored])
  · exact errand.record_id ▸ (orderly.queue errand mem).1

theorem Session.launched (session : Session setup past a) : ∀ e, a.Holds e → Launched (a :: past) e := by
  induction session with
  | opened now drawn agent =>
    rintro e (stored | ⟨errand, mem, -⟩)
    · cases stored
    · cases mem
  | @asked past a session request ih =>
    intro e held
    have steady := session.steady
    have sources := sources_launched ih request
    have reaches := reaches_after steady sources
    rcases reaches.moves.origin_of_holds sources.same steady.orderly sources.known e held with old | ⟨new, taken⟩
    · exact old.cons _
    · exact ⟨[], _, a, past, rfl, new, (reaches.steady steady).orderly.drawn_of_holds held, taken⟩

theorem Session.sound (session : Session setup past a) : ∀ b ∈ a :: past, b.store.Sound := by
  induction session with
  | opened now drawn agent =>
    intro b mem
    rw [List.mem_singleton.mp mem]
    intro id w stored
    cases stored
  | @asked past a session request ih =>
    have reaches := reaches_after session.steady (sources_trivial a request)
    refine List.forall_mem_cons.mpr ⟨?_, ih⟩
    exact reaches.moves.sound session.steady.orderly (ih a List.mem_cons_self)

/-- At every point of a session, the enabled workflows and all runs have graphs without defects, and every run
was launched from a workflow that was enabled at the time. -/
theorem Session.validated (session : Session setup past a) :
    (∀ id w, a.store.definitions.get? id = some w → w.enabled = true → w.graph.defects = .ok []) ∧
      ∀ id e, a.store.runs.get? id = some e → e.graph.defects = .ok [] ∧ Launched (a :: past) e := by
  refine ⟨session.sound a List.mem_cons_self, ?_⟩
  intro id e stored
  obtain rfl := session.steady.orderly.kept.runs.label_eq stored
  have launched := session.launched e (.inl stored)
  obtain ⟨before, mem, w, ⟨present, enabled⟩, -, same⟩ := launched.mem
  exact ⟨same ▸ session.sound before mem w.id w present enabled, launched⟩

/-- In a session with a run, the run was launched from the workflow that had been enabled before. -/
theorem pausingRun_validated : ∃ past a e, Session Trial.swift past a ∧
    a.store.runs.get? (Store.idOfCount 1) = some e ∧ e.graph.defects = .ok [] ∧ Launched (a :: past) e := by
  obtain ⟨e, stored⟩ := Option.isSome_iff_exists.mp Trial.pausingRun_stored
  obtain ⟨defects, launched⟩ := Trial.session.validated.2 _ e stored
  exact ⟨_, _, e, Trial.session, stored, defects, launched⟩

end Automation

end TriggerFlow
