import TriggerFlow.Proofs.Automation.Counting
import TriggerFlow.Proofs.Run.Separate
import TriggerFlow.Proofs.Store.Owned

/-!
# How records and counts are kept

While the clock stands still and actions are answered by what is sent out, each run has a cell of its own: its record in
memory, or its file on a shelf. The workflows are a list beside the cells, in which failures are counted and which runs
leave alone.
-/

namespace TriggerFlow

/-- A dispatcher that answers a call by what the call says, and does nothing else but use up identifiers. -/
structure Action.Dispatcher.Inert {δ : Type} (d : Action.Dispatcher δ) : Prop where
  answer : ∀ call fresh fresh' agent agent', (d.respond call fresh agent).2.1 = (d.respond call fresh' agent').2.1
  draws : ∀ call fresh agent, ∀ effect ∈ (d.respond call fresh agent).1, effect = .draw

namespace Store

theorem now_indifferent (time : Instant) : Indifferent fun s => s.now = time where
  drawn held _ := held
  memoryRuns _ held _ := held
  setRun _ held _ _ := held
  eraseRun _ held _ := held
  memoryWorkflows _ held _ := held
  setWorkflows _ held _ := held

end Store

namespace World

variable {δ : Type} {d : Action.Dispatcher δ}

section Inert

variable (inert : d.Inert)
include inert

theorem inert_draws {effect : Action.Effect} (caused : (surroundings d none).Causes effect) : effect = .draw := by
  obtain ⟨sending, w, mem⟩ := caused
  exact inert.draws _ _ _ effect mem

theorem inert_harmless : (surroundings d none).Harmless := by
  intro effect caused
  obtain rfl := inert_draws inert caused
  rfl

/-- A world whose dispatcher is inert stands still. -/
theorem still : (surroundings d none).Still where
  load id time := inStore_preserves ((Store.now_indifferent time).execution? id)
  save e time := inStore_preserves ((Store.now_indifferent time).saveExecution e)
  append id entry time := (inStore_preserves ((Store.now_indifferent time).appendLog id entry)).bind fun _ => .pure _
  respond _ _ := rfl
  suffer caused w := by
    obtain rfl := inert_draws inert caused
    exact ⟨rfl, rfl⟩
  answer sending w v := inert.answer _ _ _ _ _
  quiet := inert_harmless inert
  discreet := discreet d

end Inert

/-- Where the files of executions are told, their cells are. -/
theorem rewritten_of_refiled {shelf : Shelf} {texts : String → Option String} {w w' : World δ}
    (refiled : w.store.Refiled shelf texts w'.store) : (surroundings d none).Rewritten (fun w => w.store.Filed shelf)
      (fun w => w.store.texts shelf) w texts w' :=
  ⟨refiled.filed, refiled.now, refiled.texts⟩

/-- The files of executions are cells. -/
def filing (inert : d.Inert) (shelf : Shelf) : (surroundings d none).Cells (Option String) where
  valid w := w.store.Filed shelf
  cell w := w.store.texts shelf
  read := Execution.inText?
  write e := some e.toRecord.fileText
  load filed id := ⟨(filed.execution?_apply id).1, rewritten_of_refiled (filed.execution?_apply id).2⟩
  save filed e := ⟨(filed.saveExecution_apply e).1, rewritten_of_refiled (filed.saveExecution_apply e).2⟩
  append {w} filed id entry := by
    obtain ⟨done, after⟩ := filed.appendLog_apply id entry
    have ran : (surroundings d none).append id entry w = ((Store.appendLog id entry w.store).1.map fun _ => false,
        { w with store := (Store.appendLog id entry w.store).2 }) := by
      show (inStore (Store.appendLog id entry) >>= fun _ => pure false) w = _
      rw [Act.bind_apply, inStore, Act.onPart]
      rcases Store.appendLog id entry w.store with ⟨_ | _, s⟩ <;> rfl
    rw [ran]
    refine ⟨?_, rewritten_of_refiled after⟩
    rw [done, show (surroundings d none).now w = w.store.now from rfl]
    cases Execution.inText? w.store.now (w.store.texts shelf id) <;> rfl
  answer sending w v := inert.answer _ _ _ _ _
  respond filed _ := ⟨filed, rfl, rfl⟩
  quiet := inert_harmless inert
  suffer caused filed := by
    obtain rfl := inert_draws inert caused
    exact ⟨rfl, ⟨filed.kind, filed.own⟩, rfl, rfl⟩

end World

namespace Automation

variable {δ : Type} {setup : Setup δ} {κ : Type}

/-- Workflows are a list beside the cells of runs. A failure is counted in the list and leaves the cells alone, and runs
leave the list alone. How many more failures can be counted may be bounded. -/
structure Tallies (c : (surroundings setup).Cells κ) (lists : Nat → List Workflow → Store → Prop) : Prop where
  free : ∀ n l, Store.FreeOfExecutions (lists n l)
  passes : ∀ n l micros, (World.pass micros).Preserves (lists n l)
  fewer : ∀ {n l s}, lists (n + 1) l s → lists n l s
  counts : ∀ {n l w}, c.valid w → lists (n + 1) l w.store → ∀ driven : Run.Driven,
    lists n (Store.tallied (.ok driven) l) (Store.countFailure driven.answer w.store).2
  aside : ∀ {w}, c.valid w → ∀ driven : Run.Driven, (surroundings setup).Rewritten c.valid c.cell w (c.cell w)
    { w with store := (Store.countFailure driven.answer w.store).2 }
  answers : ∀ {n l w}, c.valid w → lists n l w.store → (Store.workflows w.store).1 = .ok l

/-- What runs find in a system that keeps its records in memory. -/
abbrev remembering (inert : setup.dispatcher.Inert) : (surroundings setup).Cells (Option Execution) :=
  (ledger setup).cells (World.still inert)

theorem remembering_tallies (inert : setup.dispatcher.Inert) :
    Tallies (remembering inert) fun _ l s => s.definitions.values = l where
  free _ := Store.values_free
  passes _ _ := World.pass_preserves fun held _ => held
  fewer held := held
  counts kept held driven := held ▸ Store.countFailure_values kept driven
  aside {w} kept driven := by
    obtain ⟨redefines, now⟩ := (((Store.countFailure_spec kept driven).and
      (((Store.now_indifferent w.store.now).countFailure driven.answer).ensures rfl)).mono
        (fun _ _ counted => counted) fun _ _ none => none.1.elim).state
    exact ⟨redefines.kept, now, congrArg Ordered.get? redefines.runs⟩
  answers {n l w} kept held := by
    refine (Act.Ensures.answer (P := fun _ => True) ((Store.workflows_spec kept).mono ?_ fun _ _ none => none.elim)).1
    exact fun _ _ found => ⟨congrArg Except.ok (found.1.trans held), trivial⟩

/-- What runs find in a system that keeps its records on a shelf. -/
abbrev filing (inert : setup.dispatcher.Inert) (shelf : Shelf) : (surroundings setup).Cells (Option String) :=
  World.filing inert shelf

theorem filing_tallies (inert : setup.dispatcher.Inert) (shelf : Shelf) :
    Tallies (filing inert shelf) (Store.Roll shelf) where
  free := Store.Roll.free shelf
  passes _ _ := World.pass_preserves fun roll _ => roll.of_file rfl rfl
  fewer roll := roll.mono (Nat.le_succ _)
  counts _ roll := roll.countFailure_apply
  aside {w} filed driven := World.rewritten_of_refiled
    ((Store.refiled_free w.store shelf (w.store.texts shelf)).countFailure driven.answer w.store ⟨filed, rfl, rfl⟩)
  answers _ roll := roll.workflows_apply

end Automation

end TriggerFlow
