import TriggerFlow.Proofs.Automation.Move

/-!
# What happens without anybody's editing definitions

Ticks, events and requests by hand come down to motions: something is remembered of triggers, a run is launched and
counted, an errand is taken in, the first errand is carried out and its failure counted, and somebody asks for a run to
be cancelled. A motion tells all that becomes of the counts of workflows. It comes down to one move or two.
-/

namespace TriggerFlow

open Run (Meanwhile SameRun)

/-- The copy that an errand is for is in the state in which the errand takes it up. -/
def Errand.Ready : Errand → Prop
  | .start e => e.status = .pending
  | .resume e _ _ => e.status = .waiting

namespace Workflow

/-- A workflow with one more launch counted. -/
def launchedAt (time : Instant) (w : Workflow) : Workflow :=
  { w with executionCount := w.executionCount + 1, lastExecutedAt := some time }

/-- A workflow with one more failure counted. -/
def failedOnce (w : Workflow) : Workflow := { w with errorCount := w.errorCount + 1 }

end Workflow

namespace Store

/-- The definitions after the answer of a drive has been noted. -/
def noted (result : Except Failure Run.Driven) (definitions : Ordered Workflow) : Ordered Workflow :=
  match result with
  | .ok driven =>
    if driven.answer.status = .failed then touched driven.answer.workflowId Workflow.failedOnce definitions
    else definitions
  | .error _ => definitions

variable {s s' : Store} {driven : Run.Driven} {definitions : Ordered Workflow}

theorem noted_of_failed (failed : driven.answer.status = .failed) :
    noted (.ok driven) definitions = touched driven.answer.workflowId Workflow.failedOnce definitions :=
  if_pos failed

theorem noted_of_not_failed (well : driven.answer.status ≠ .failed) : noted (.ok driven) definitions = definitions :=
  if_neg well

theorem countLaunch_spec (kept : s.InMemory) (id : String) (time : Instant) :
    (countLaunch id time).Ensures s
      (fun _ s' => s.Redefines (touched id (Workflow.launchedAt time) s.definitions) s') fun _ _ => False :=
  touchWorkflow_spec kept id fun _ => rfl

theorem countFailure_spec (kept : s.InMemory) (driven : Run.Driven) : (countFailure driven.answer).Ensures s
    (fun _ s' => s.Redefines (noted (.ok driven) s.definitions) s') fun _ _ => False := by
  unfold countFailure noted
  dsimp only
  split
  · exact touchWorkflow_spec kept _ fun _ => rfl
  · exact ⟨kept, rfl, rfl, le_refl _⟩

/-- A run is stored and counted. -/
theorem createRun_spec (kept : s.InMemory) (w : Workflow) (kind : TriggerKind) (payload : Members) :
    (createRun w kind payload).Ensures s
      (fun e s' => e = .launched s.fresh w kind payload ∧ ∃ s₁, s.Reruns (s.runs.set s.fresh.id e) s₁ ∧
        s.drawn < s₁.drawn ∧ s₁.Redefines (touched w.id (Workflow.launchedAt s.now) s₁.definitions) s')
      fun _ _ => False := by
  refine Act.ensures_bind.mpr ((draw_spec kept).mono ?_ fun _ _ none => none)
  rintro fresh s₀ ⟨rfl, drawn, drew⟩
  refine Act.ensures_bind.mpr ((saveExecution_spec drew.kept _).mono ?_ fun _ _ none => none)
  intro _ s₁ saved
  have stored : s.Reruns (s.runs.set s.fresh.id (.launched s.fresh w kind payload)) s₁ :=
    ⟨saved.kept, by rw [saved.runs, drew.runs]; rfl, saved.definitions.trans drew.definitions,
      drew.drawn.trans saved.drawn⟩
  have later : s.drawn < s₁.drawn := by
    have := saved.drawn
    omega
  refine Act.ensures_bind.mpr ((countLaunch_spec saved.kept w.id s.now).mono ?_ fun _ _ none => none)
  exact fun _ s' counted => ⟨rfl, s₁, stored, later, counted⟩

theorem Edits.of_noted {result : Except Failure Run.Driven}
    (redefines : s.Redefines (noted result s.definitions) s') : Edits s s' := by
  unfold noted at redefines
  have same (redefines : s.Redefines s.definitions s') : Edits s s' :=
    .of_reruns ⟨redefines.kept, redefines.runs, redefines.definitions, redefines.drawn⟩
  split at redefines
  · split at redefines
    · exact .of_touched redefines (fun _ => rfl) fun _ on => on
    · exact same redefines
  · exact same redefines

end Store

namespace Automation

variable {δ : Type} {setup : Setup δ} {origin : Origin} {a b c : Automation δ}

/-- A motion of the running system: what comes of it for runs and for the counts of workflows. -/
inductive Motion (setup : Setup δ) (origin : Origin) : Automation δ → Automation δ → Prop where
  | rested {a : Automation δ} {s : Store} (reruns : a.store.Reruns a.store.runs s) :
    Motion setup origin a (a.withStore s)
  | launched {a : Automation δ} {s₁ s : Store} {w : Workflow} {kind : TriggerKind} {payload : Members}
    (new : origin.of (.launched a.store.fresh w kind payload) ∧ origin.launches w kind payload)
    (reruns : a.store.Reruns (a.store.runs.set a.store.fresh.id (.launched a.store.fresh w kind payload)) s₁)
    (drawn : a.store.drawn < s₁.drawn)
    (counted : s₁.Redefines (Store.touched w.id (Workflow.launchedAt a.store.now) s₁.definitions) s) :
    Motion setup origin a (a.withStore s)
  | queued {a : Automation δ} {errand : Errand} (idle : inFlight errand.runId a = false)
    (known : origin.of errand.record) (drawn : a.store.Drawn errand.runId)
    (meanwhile : Meanwhile (some errand.record) (a.store.runs.get? errand.runId))
    (kept : (surroundings setup).Spares errand.runId → a.store.runs.get? errand.runId ≠ none)
    (ready : errand.Ready) : Motion setup origin a { a with queue := a.queue ++ [errand] }
  | carried {a : Automation δ} {errand : Errand} {rest : List Errand} {s : Store} (queue : a.queue = errand :: rest)
    (counted : (drive setup errand a.desk).2.world.store.Redefines
      (Store.noted (drive setup errand a.desk).1 (drive setup errand a.desk).2.world.store.definitions) s) :
    Motion setup origin a ((⟨(drive setup errand a.desk).2, rest⟩ : Automation δ).withStore s)
  | asked {a : Automation δ} (id : String) :
    Motion setup origin a { a with desk := (Run.requestCancel (surroundings setup) id a.desk).2 }

/-- Motions one after the other. -/
abbrev Motions (setup : Setup δ) (origin : Origin) : Automation δ → Automation δ → Prop :=
  Relation.ReflTransGen (Motion setup origin)

theorem Motion.moves (motion : Motion setup origin a b) : Moves setup origin a b := by
  cases motion with
  | rested reruns => exact .single (.edited (.of_reruns reruns))
  | @launched s₁ s w kind payload new reruns drawn counted =>
    refine (Relation.ReflTransGen.single (.launched new reruns drawn)).tail (Move.edited (a := a.withStore s₁) ?_)
    exact .of_touched counted (fun _ => rfl) fun _ on => on
  | queued idle known drawn meanwhile kept ready => exact .single (.queued idle known drawn meanwhile kept)
  | @carried errand rest s queue counted =>
    refine (Relation.ReflTransGen.single (.carried queue)).tail
      (Move.edited (a := ⟨(drive setup errand a.desk).2, rest⟩) ?_)
    exact .of_noted counted
  | asked id => exact .single (.asked id)

theorem Motions.moves (motions : Motions setup origin a b) : Moves setup origin a b := by
  induction motions with
  | refl => exact .refl
  | tail earlier motion ih => exact ih.trans motion.moves

end Automation

end TriggerFlow
