import TriggerFlow.Proofs.Automation.Remembering
import TriggerFlow.Proofs.Store.Calls

/-!
# Failures counted in a list

The failure of a run is counted in its workflow, the first one with the identifier in the list of all workflows. Two
failures may be counted in either order. Workflows in memory are such a list, and so are the readable ones of a file as
long as their counts can be written.
-/

namespace TriggerFlow

namespace Workflow

theorem id_failedOnce (w : Workflow) : w.failedOnce.id = w.id := rfl

theorem recorded_failedOnce (w : Workflow) : w.failedOnce.recorded = w.recorded.failedOnce := rfl

/-- A workflow whose next failure can be written may have it counted. -/
theorem Storable.failedOnce {w : Workflow} (storable : w.Storable)
    (room : (Json.int (w.errorCount + 1)).isPlain = true) : w.failedOnce.Storable where
  accepted := storable.accepted
  shown := ⟨storable.shown.lastExecuted, storable.shown.created, storable.shown.updated⟩
  plain := by
    obtain ⟨version, nodes, vars, executions, -⟩ := isPlain_toRecord_iff.mp storable.plain
    exact isPlain_toRecord_iff.mpr ⟨version, nodes, vars, executions, room⟩

/-- The counts of so many failures more are not too long to be written. -/
def HasRoom (n : Nat) (w : Workflow) : Prop := ∀ m ≤ n, (Json.int (w.errorCount + m)).isPlain = true

theorem HasRoom.mono {w : Workflow} {m n : Nat} (room : w.HasRoom n) (le : m ≤ n) : w.HasRoom m :=
  fun k fewer => room k (fewer.trans le)

theorem HasRoom.failedOnce {w : Workflow} {n : Nat} (room : w.HasRoom (n + 1)) : w.failedOnce.HasRoom n := by
  intro m le
  have next := room (m + 1) (by omega)
  have same : w.failedOnce.errorCount + m = w.errorCount + (m + 1 : Nat) := by
    simp only [Workflow.failedOnce, Nat.cast_add, Nat.cast_one]
    omega
  rwa [same]

end Workflow

namespace Store

/-- The list after the first workflow with an identifier has changed, if there is one. -/
def changed (id : String) (change : Workflow → Workflow) : List Workflow → List Workflow
  | [] => []
  | w :: rest => if w.id = id then change w :: rest else w :: changed id change rest

section Changed

variable {id : String} {change : Workflow → Workflow} {l : List Workflow}

theorem mem_changed {w : Workflow} (mem : w ∈ changed id change l) : w ∈ l ∨ ∃ old ∈ l, w = change old := by
  induction l with
  | nil => cases mem
  | cons first rest ih =>
    rw [changed] at mem
    split at mem
    · rcases List.mem_cons.mp mem with rfl | mem
      · exact .inr ⟨first, List.mem_cons_self, rfl⟩
      · exact .inl (List.mem_cons_of_mem _ mem)
    · rcases List.mem_cons.mp mem with rfl | mem
      · exact .inl List.mem_cons_self
      · rcases ih mem with old | ⟨old, within, rfl⟩
        · exact .inl (List.mem_cons_of_mem _ old)
        · exact .inr ⟨old, List.mem_cons_of_mem _ within, rfl⟩

theorem changed_of_none (missing : (l.find? fun w => w.id = id) = none) : changed id change l = l := by
  induction l with
  | nil => rfl
  | cons first rest ih =>
    rw [List.find?_cons] at missing
    split at missing
    · cases missing
    · rename_i other
      rw [changed, if_neg (by simpa using other), ih missing]

/-- A change puts what the workflow becomes in its place. -/
theorem placeWorkflow_of_some {w : Workflow} (found : (l.find? fun w => w.id = id) = some w) :
    placeWorkflow id (change w) l = changed id change l := by
  induction l with
  | nil => cases found
  | cons first rest ih =>
    rw [List.find?_cons] at found
    split at found
    · rename_i own
      cases found
      rw [placeWorkflow, changed, if_pos (by simpa using own), if_pos (by simpa using own)]
    · rename_i other
      rw [placeWorkflow, changed, if_neg (by simpa using other), if_neg (by simpa using other), ih found]

/-- Workflows may be changed in either order. -/
theorem changed_comm (own : ∀ w, (change w).id = w.id) (id' : String) (l : List Workflow) :
    changed id change (changed id' change l) = changed id' change (changed id change l) := by
  rcases eq_or_ne id id' with rfl | ne
  · rfl
  induction l with
  | nil => rfl
  | cons first rest ih =>
    by_cases here : first.id = id
    · simp [changed, here, own, ne]
    · by_cases here' : first.id = id' <;> simp [changed, here, here', own, ih, ne.symm]

theorem touched_cons (key : String) (w : Workflow) (rest : Ordered Workflow) : touched id change ((key, w) :: rest) =
    if key = id then (key, change w) :: rest else (key, w) :: touched id change rest := by
  by_cases same : key = id
  · simp [touched, Ordered.get?, Ordered.set, same]
  · cases found : Ordered.get? rest id <;> simp [touched, Ordered.get?, Ordered.set, same, found]

/-- Definitions in memory change as a list. -/
theorem values_touched {definitions : Ordered Workflow} (own : ∀ pair ∈ definitions, pair.2.id = pair.1) :
    (touched id change definitions).values = changed id change definitions.values := by
  induction definitions with
  | nil => rfl
  | cons pair rest ih =>
    obtain ⟨key, w⟩ := pair
    obtain ⟨named, others⟩ := List.forall_mem_cons.mp own
    obtain rfl : w.id = key := named
    have rest := ih others
    by_cases same : w.id = id
    · simp [touched_cons, changed, Ordered.values, same]
    · simpa [touched_cons, changed, Ordered.values, same] using rest

end Changed

/-- The list after the answer of a drive has been noted. -/
def tallied (result : Except Failure Run.Driven) (l : List Workflow) : List Workflow :=
  match result with
  | .ok driven => if driven.answer.status = .failed then changed driven.answer.workflowId Workflow.failedOnce l else l
  | .error _ => l

/-- Answers may be noted in either order. -/
theorem tallied_comm (result result' : Except Failure Run.Driven) (l : List Workflow) :
    tallied result (tallied result' l) = tallied result' (tallied result l) := by
  unfold tallied
  cases result <;> cases result' <;> dsimp only
  split <;> split
  · exact changed_comm Workflow.id_failedOnce _ _
  all_goals rfl

section Memory

variable {s : Store} {l : List Workflow}

/-- The definitions in memory are a list, whatever becomes of executions. -/
theorem values_free (l : List Workflow) : FreeOfExecutions fun s => s.definitions.values = l where
  drawn same _ := same
  memoryRuns kind same _ := by
    rw [← same, definitions, definitions, kind]
  setRun kind same _ _ := by
    rw [← same, definitions, definitions, kind]
  eraseRun kind same _ := by
    rw [← same, definitions, definitions, kind]

theorem countFailure_values (kept : s.InMemory) (driven : Run.Driven) :
    (countFailure driven.answer s).2.definitions.values = tallied (.ok driven) s.definitions.values := by
  have counted := (((countFailure_spec kept driven).mono (fun _ _ redefines => redefines.definitions)
    fun _ _ none => none.elim).state : (countFailure driven.answer s).2.definitions = _)
  rw [counted, noted, tallied]
  split
  · exact values_touched kept.definitions.own
  · rfl

end Memory

section Shelf

variable {s : Store} {shelf : Shelf} {items : List Json} {l : List Workflow} {n : Nat}

open Workflow (readable)

/-- The readable workflows of a file are a list, with room for so many failures more. -/
structure Roll (shelf : Shelf) (n : Nat) (l : List Workflow) (s : Store) : Prop where
  holds : ∃ items, s.Holds shelf items ∧ readable items = l
  room : ∀ w ∈ l, w.HasRoom n

namespace Roll

/-- The list is up to the file of workflows. -/
theorem of_file {s' : Store} (roll : Roll shelf n l s) (kind : s'.keeping = s.keeping)
    (file : s'.folder.get? shelf.workflows = s.folder.get? shelf.workflows) : Roll shelf n l s' := by
  obtain ⟨items, holds, same⟩ := roll.holds
  exact ⟨⟨items, ⟨kind.trans holds.kind, file ▸ holds.file, holds.own⟩, same⟩, roll.room⟩

theorem mono {m : Nat} (roll : Roll shelf n l s) (le : m ≤ n) : Roll shelf m l s :=
  ⟨roll.holds, fun w mem => (roll.room w mem).mono le⟩

theorem kind (roll : Roll shelf n l s) : s.keeping = .files shelf := roll.holds.elim fun _ is => is.1.kind

/-- It does not matter what becomes of executions. -/
theorem free (shelf : Shelf) (n : Nat) (l : List Workflow) : FreeOfExecutions (Roll shelf n l) where
  drawn roll _ := roll.of_file rfl rfl
  memoryRuns kind roll := nomatch kind.symm.trans roll.kind
  setRun kind roll id text := by
    obtain rfl := Keeping.files.inj (kind.symm.trans roll.kind)
    exact roll.of_file rfl (Ordered.get?_set_of_ne _ _ (Shelf.execution_ne_workflows _ id))
  eraseRun kind roll id := by
    obtain rfl := Keeping.files.inj (kind.symm.trans roll.kind)
    refine roll.of_file rfl ?_
    rw [Ordered.get?_erase, Function.update_of_ne (Shelf.execution_ne_workflows _ id).symm]

theorem workflows_apply (roll : Roll shelf n l s) : (workflows s).1 = .ok l := by
  obtain ⟨items, holds, rfl⟩ := roll.holds
  obtain ⟨m, loaded⟩ := loadWorkflows_apply holds
  rw [workflows_files holds.kind loaded]

/-- A failure that can be written is counted. -/
theorem touchWorkflow_apply (roll : Roll shelf (n + 1) l s) (id : String) :
    Roll shelf n (changed id Workflow.failedOnce l) (touchWorkflow id Workflow.failedOnce s).2 := by
  obtain ⟨items, holds, rfl⟩ := roll.holds
  obtain ⟨m, loaded⟩ := loadWorkflows_apply holds
  have drawn : ({ s with drawn := m } : Store).Holds shelf items := holds.of_folder rfl rfl
  have room (w : Workflow) (mem : w ∈ changed id Workflow.failedOnce (readable items)) : w.HasRoom n := by
    rcases mem_changed mem with old | ⟨old, within, rfl⟩
    · exact (roll.room w old).mono (Nat.le_succ n)
    · exact (roll.room old within).failedOnce
  rw [touchWorkflow, Act.bind_run_ok (workflow?_files holds.kind loaded id)]
  cases found : (readable items).find? fun w => w.id = id with
  | none =>
    exact ⟨⟨items, drawn, (changed_of_none found).symm⟩, room⟩
  | some w =>
    have typed (w : Workflow) (mem : w ∈ readable items) (_ : w.id = id) : w.failedOnce.Storable :=
      ((holds.storable w mem).1).failedOnce (roll.room w mem 1 (by omega))
    obtain ⟨after, held, -, made, -⟩ := (WorkflowCall.step_update drawn typed).after
    refine ⟨⟨after, ?_, ?_⟩, room⟩
    · rw [WorkflowCall.run, map_eq_pure_bind, Act.bind_pure_state] at held
      dsimp only
      rwa [Act.bind_pure_state]
    · have kept : w.failedOnce.recorded = w.failedOnce := by
        rw [Workflow.recorded_failedOnce, (holds.storable w (List.mem_of_find?_eq_some found)).2]
      rw [made]
      simp only [WorkflowCall.on, found]
      rw [kept, ← WorkflowCall.placeWorkflow_eq, placeWorkflow_of_some found]

theorem countFailure_apply (roll : Roll shelf (n + 1) l s) (driven : Run.Driven) :
    Roll shelf n (tallied (.ok driven) l) (countFailure driven.answer s).2 := by
  rw [countFailure, tallied]
  split
  · exact roll.touchWorkflow_apply _
  · exact roll.mono (Nat.le_succ n)

end Roll

end Shelf

end Store

end TriggerFlow
