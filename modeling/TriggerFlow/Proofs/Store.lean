import TriggerFlow.Proofs.Act
import TriggerFlow.Proofs.Ordered
import TriggerFlow.Store
import Mathlib.Data.List.Sort

/-!
# What the store does

What the operations of a store do when it keeps its records in memory, each under its own identifier. None
of them looks at files. When it keeps them in files, every operation comes down to what is loaded and what is
written. Identifiers that are drawn at different counts are different.
-/

namespace TriggerFlow

namespace Text

/-- The value of hexadecimal digits. -/
def hexValue (digits : List Char) : Nat := digits.foldl (fun value c => value * 16 + (hexDigit? c).getD 0) 0

theorem hexDigit?_digitChar : ∀ d < 16, hexDigit? (Nat.digitChar d) = some d := by decide

theorem hexValue_toDigits (n : Nat) : hexValue (Nat.toDigits 16 n) = n := by
  induction n using Nat.strongRecOn with
  | ind n ih =>
    by_cases small : n < 16
    · rw [Nat.toDigits_of_lt_base small]
      simp [hexValue, hexDigit?_digitChar n small]
    · have last := hexDigit?_digitChar (n % 16) (Nat.mod_lt n (by omega))
      have front : hexValue (Nat.toDigits 16 (n / 16)) = n / 16 := ih (n / 16) (by omega)
      rw [hexValue] at front
      rw [Nat.toDigits_of_base_le (by omega) (by omega), hexValue, List.foldl_append, front]
      simp only [List.foldl_cons, List.foldl_nil, last, Option.getD_some]
      omega

theorem hexValue_padHex (width n : Nat) : hexValue (padHex width n).toList = n := by
  have zeros (k : Nat) : (List.replicate k '0').foldl (fun value c => value * 16 + (hexDigit? c).getD 0) 0 = 0 := by
    induction k with
    | zero => rfl
    | succ k ih => simpa [List.replicate_succ, show hexDigit? '0' = some 0 by decide] using ih
  rw [padHex, String.toList_ofList, hexValue, List.foldl_append, zeros]
  exact hexValue_toDigits n

end Text

namespace Store

variable {s s' : Store} {id : String}

/-- Different counts give different identifiers. -/
theorem idOfCount_injective : Function.Injective idOfCount := fun m n same => by
  rw [← Text.hexValue_padHex 32 m, ← Text.hexValue_padHex 32 n]
  exact congrArg (fun id => Text.hexValue id.toList) same

/-- The stored executions. -/
def runs (s : Store) : Ordered Execution :=
  match s.keeping with
  | .memory m => m.executions
  | .files _ => []

/-- The stored workflows. -/
def definitions (s : Store) : Ordered Workflow :=
  match s.keeping with
  | .memory m => m.workflows
  | .files _ => []

/-- Records are kept in memory, each under its own identifier. -/
structure InMemory (s : Store) : Prop where
  kind : ∃ m, s.keeping = .memory m
  runs : s.runs.Indexed Execution.id
  definitions : s.definitions.Indexed Workflow.id

/-- The store has other executions than before, and time and identifiers may have been used up. -/
structure Reruns (s : Store) (runs : Ordered Execution) (s' : Store) : Prop where
  kept : s'.InMemory
  runs : s'.runs = runs
  definitions : s'.definitions = s.definitions
  drawn : s.drawn ≤ s'.drawn

/-- The store has other workflows than before. -/
structure Redefines (s : Store) (definitions : Ordered Workflow) (s' : Store) : Prop where
  kept : s'.InMemory
  runs : s'.runs = s.runs
  definitions : s'.definitions = definitions
  drawn : s.drawn ≤ s'.drawn

theorem InMemory.reruns (kept : s.InMemory) : Reruns s s.runs s := ⟨kept, rfl, rfl, le_refl s.drawn⟩

theorem setRuns_spec (kept : s.InMemory) {m : MemoryStore} (kind : s.keeping = .memory m)
    {executions : Ordered Execution} (indexed : executions.Indexed Execution.id) {triggers : Ordered TriggerMemory} :
    (setMemory ⟨m.workflows, executions, triggers⟩).Ensures s (fun _ => Reruns s executions) fun _ _ => False := by
  have same : s.definitions = m.workflows := by simp [Store.definitions, kind]
  refine ⟨⟨⟨_, rfl⟩, indexed, ?_⟩, rfl, same.symm, le_refl s.drawn⟩
  exact same ▸ kept.definitions

theorem setDefinitions_spec (kept : s.InMemory) {m : MemoryStore} (kind : s.keeping = .memory m)
    {workflows : Ordered Workflow} (indexed : workflows.Indexed Workflow.id) {triggers : Ordered TriggerMemory} :
    (setMemory ⟨workflows, m.executions, triggers⟩).Ensures s (fun _ => Redefines s workflows)
      fun _ _ => False := by
  have same : s.runs = m.executions := by simp [Store.runs, kind]
  refine ⟨⟨⟨_, rfl⟩, ?_, indexed⟩, same.symm, rfl, le_refl s.drawn⟩
  exact same ▸ kept.runs

theorem draw_spec (kept : s.InMemory) : draw.Ensures s
    (fun fresh s' => fresh = s.fresh ∧ s'.drawn = s.drawn + 1 ∧ s.Reruns s.runs s') fun _ _ => False :=
  ⟨rfl, rfl, ⟨kept.kind, kept.runs, kept.definitions⟩, rfl, rfl, Nat.le_succ s.drawn⟩

section Runs

theorem execution?_spec (kept : s.InMemory) (id : String) :
    (execution? id).Ensures s (fun found s' => found = s.runs.get? id ∧ s' = s) fun _ _ => False := by
  obtain ⟨m, kind⟩ := kept.kind
  refine Act.ensures_bind.mpr (Act.ensures_ask.mpr ?_)
  rw [kind]
  exact ⟨by simp [Store.runs, kind], rfl⟩

theorem saveExecution_spec (kept : s.InMemory) (e : Execution) :
    (saveExecution e).Ensures s (fun _ => Reruns s (s.runs.set e.id e)) fun _ _ => False := by
  obtain ⟨m, kind⟩ := kept.kind
  refine Act.ensures_bind.mpr (Act.ensures_ask.mpr ?_)
  have same : s.runs = m.executions := by simp [Store.runs, kind]
  have indexed := kept.runs.set e
  rw [same] at indexed ⊢
  rw [kind]
  exact setRuns_spec kept kind indexed

theorem appendLog_spec (kept : s.InMemory) (id : String) (entry : LogEntry) :
    (appendLog id entry).Ensures s
      (fun _ s' => ∃ e, s.runs.get? id = some e ∧
        Reruns s (s.runs.set id { e with log := e.log ++ [entry] }) s')
      fun f s' => f = .executionMissing id ∧ s.runs.get? id = none ∧ s' = s := by
  obtain ⟨m, kind⟩ := kept.kind
  have same : s.runs = m.executions := by simp [Store.runs, kind]
  refine Act.ensures_bind.mpr (Act.ensures_ask.mpr ?_)
  rw [kind]
  dsimp only
  cases found : s.runs.get? id with
  | none =>
    rw [same] at found
    rw [MemoryStore.appendLog?, found]
    exact ⟨rfl, rfl, rfl⟩
  | some e =>
    obtain rfl := kept.runs.label_eq found
    have indexed := kept.runs.set { e with log := e.log ++ [entry] }
    rw [same] at found indexed ⊢
    rw [MemoryStore.appendLog?, found]
    exact (setRuns_spec kept kind indexed).mono (fun _ s' reruns => ⟨e, rfl, reruns⟩) fun _ _ none => none.elim

theorem forgetExecution_spec (kept : s.InMemory) (id : String) :
    (forgetExecution id).Ensures s (fun _ => Reruns s (s.runs.erase id)) fun _ _ => False := by
  obtain ⟨m, kind⟩ := kept.kind
  refine Act.ensures_bind.mpr (Act.ensures_ask.mpr ?_)
  have same : s.runs = m.executions := by simp [Store.runs, kind]
  have indexed := kept.runs.erase id
  rw [same] at indexed ⊢
  rw [kind]
  exact setRuns_spec kept kind indexed

theorem allExecutions_memory (kept : s.InMemory) : allExecutions s = (.ok s.runs.values, s) := by
  obtain ⟨m, kind⟩ := kept.kind
  have asked : (Act.ask keeping : Act Store Keeping) s = (.ok (.memory m), s) := by rw [← kind]; rfl
  rw [allExecutions, Act.bind_run_ok asked, Store.runs, kind]
  rfl

/-- What a selection finds is stored, and each record is found once. -/
theorem executions_spec (kept : s.InMemory) (selection : Selection) : (executions selection).Ensures s
    (fun found s' => s' = s ∧ (found.map Execution.id).Nodup ∧
      ∀ e ∈ found, s.runs.get? e.id = some e ∧ selection.holds e = true) fun _ s' => s' = s := by
  refine (Act.ensures_bind_of_ok (allExecutions_memory kept)).mpr ?_
  refine Act.ensures_lift.mpr ⟨?_, fun _ _ => rfl⟩
  intro found sorted
  have perm : found.Perm (s.runs.values.filter selection.holds) := by
    unfold newestFirst at sorted
    dsimp only at sorted
    split at sorted
    · cases sorted
      exact List.mergeSort_perm _ _
    · cases sorted
  refine ⟨rfl, (perm.map Execution.id).nodup_iff.mpr ?_, ?_⟩
  · exact (List.filter_sublist.map Execution.id).nodup kept.runs.values_nodup
  · intro e mem
    obtain ⟨mem, holds⟩ := List.mem_filter.mp (perm.subset mem)
    exact ⟨kept.runs.get?_label mem, holds⟩

end Runs

section Definitions

theorem workflow?_spec (kept : s.InMemory) (id : String) :
    (workflow? id).Ensures s (fun found s' => found = s.definitions.get? id ∧ s' = s) fun _ _ => False := by
  obtain ⟨m, kind⟩ := kept.kind
  refine Act.ensures_bind.mpr (Act.ensures_ask.mpr ?_)
  rw [kind]
  exact ⟨by simp [Store.definitions, kind], rfl⟩

theorem workflows_spec (kept : s.InMemory) :
    workflows.Ensures s (fun found s' => found = s.definitions.values ∧ s' = s) fun _ _ => False := by
  obtain ⟨m, kind⟩ := kept.kind
  refine Act.ensures_bind.mpr (Act.ensures_ask.mpr ?_)
  rw [kind]
  exact ⟨by simp [Store.definitions, kind], rfl⟩

theorem saveWorkflow_spec (kept : s.InMemory) (w : Workflow) :
    (saveWorkflow w).Ensures s (fun _ => Redefines s (s.definitions.set w.id w)) fun _ _ => False := by
  obtain ⟨m, kind⟩ := kept.kind
  refine Act.ensures_bind.mpr (Act.ensures_ask.mpr ?_)
  have same : s.definitions = m.workflows := by simp [Store.definitions, kind]
  have indexed := kept.definitions.set w
  rw [same] at indexed ⊢
  rw [kind]
  exact setDefinitions_spec kept kind indexed

theorem updateWorkflow_spec (kept : s.InMemory) (id : String) (change : Workflow → Workflow)
    (own : ∀ w, (change w).id = w.id) : (updateWorkflow id change).Ensures s
      (fun w s' => ∃ old, s.definitions.get? id = some old ∧ w = change old ∧
        Redefines s (s.definitions.set id (change old)) s')
      fun f s' => f = .workflowMissing id ∧ s.definitions.get? id = none ∧ s' = s := by
  obtain ⟨m, kind⟩ := kept.kind
  have same : s.definitions = m.workflows := by simp [Store.definitions, kind]
  refine Act.ensures_bind.mpr (Act.ensures_ask.mpr ?_)
  rw [kind]
  dsimp only
  cases found : s.definitions.get? id with
  | none =>
    rw [same] at found
    rw [MemoryStore.updateWorkflow?, found]
    exact ⟨rfl, rfl, rfl⟩
  | some old =>
    obtain rfl := kept.definitions.label_eq found
    have indexed := kept.definitions.set (change old)
    rw [own, same] at indexed
    rw [same] at found ⊢
    rw [MemoryStore.updateWorkflow?, found]
    refine Act.ensures_bind.mpr ((setDefinitions_spec kept kind indexed).mono ?_ fun _ _ none => none.elim)
    exact fun _ s' redefines => ⟨old, rfl, rfl, redefines⟩

theorem deleteWorkflow_spec (kept : s.InMemory) (id : String) :
    (deleteWorkflow id).Ensures s
      (fun found s' => found = s.definitions.has id ∧ Redefines s (s.definitions.erase id) s') fun _ _ => False := by
  obtain ⟨m, kind⟩ := kept.kind
  refine Act.ensures_bind.mpr (Act.ensures_ask.mpr ?_)
  have same : s.definitions = m.workflows := by simp [Store.definitions, kind]
  have indexed := kept.definitions.erase id
  rw [same] at indexed ⊢
  rw [kind]
  refine Act.ensures_bind.mpr ((setDefinitions_spec kept kind indexed).mono ?_ fun _ _ none => none.elim)
  exact fun _ s' redefines => ⟨rfl, redefines⟩

end Definitions

/-- The memory of triggers is no part of executions and workflows. -/
theorem saveTriggers_spec (kept : s.InMemory) (t : Ordered TriggerMemory) :
    (saveTriggers t).Ensures s (fun _ => Reruns s s.runs) fun _ _ => False := by
  obtain ⟨m, kind⟩ := kept.kind
  refine Act.ensures_bind.mpr (Act.ensures_ask.mpr ?_)
  have same : s.runs = m.executions := by simp [Store.runs, kind]
  have indexed := kept.runs
  rw [same] at indexed ⊢
  rw [kind]
  exact setRuns_spec kept kind indexed

theorem triggers_spec (kept : s.InMemory) : triggers.Ensures s (fun _ s' => s' = s) fun _ _ => False := by
  obtain ⟨m, kind⟩ := kept.kind
  refine Act.ensures_bind.mpr (Act.ensures_ask.mpr ?_)
  rw [kind]
  exact rfl

section Files

variable {shelf : Shelf} (kind : s.keeping = .files shelf)
include kind

theorem ask_files : (Act.ask keeping : Act Store Keeping) s = (.ok (.files shelf), s) := by
  rw [← kind]
  rfl

theorem saveExecution_files (e : Execution) : saveExecution e s =
    (.ok (), { s with folder := s.folder.set (shelf.execution e.id) e.toRecord.fileText }) := by
  rw [saveExecution, Act.bind_run_ok (ask_files kind)]
  rfl

theorem execution?_files (id : String) : execution? id s = loadExecution (shelf.execution id) s := by
  rw [execution?, Act.bind_run_ok (ask_files kind)]

theorem appendLog_files {id : String} {found : Option Execution}
    (loaded : loadExecution (shelf.execution id) s = (.ok found, s')) (entry : LogEntry) : appendLog id entry s =
      found.elim (.error (.executionMissing id), s') fun e => saveExecution { e with log := e.log ++ [entry] } s' := by
  rw [appendLog, Act.bind_run_ok (ask_files kind)]
  dsimp only
  rw [Act.bind_run_ok loaded]
  cases found <;> rfl

theorem allExecutions_files : allExecutions s = loadExecutions shelf (shelf.executionFiles s.folder) s := by
  have folder : (Act.ask Store.folder : Act Store Folder) s = (.ok s.folder, s) := rfl
  rw [allExecutions, Act.bind_run_ok (ask_files kind)]
  dsimp only
  rw [Act.bind_run_ok folder]

variable {found : List Workflow} {unreadable : List Json}
  (loaded : loadWorkflows shelf s = (.ok (found, unreadable), s'))
include loaded

theorem workflows_files : workflows s = (.ok found, s') := by
  rw [workflows, Act.bind_run_ok (ask_files kind)]
  dsimp only
  rw [map_eq_pure_bind, Act.bind_run_ok loaded]
  rfl

theorem workflow?_files (id : String) : workflow? id s = (.ok (found.find? fun w => w.id = id), s') := by
  rw [workflow?, Act.bind_run_ok (ask_files kind)]
  dsimp only
  rw [Act.bind_run_ok loaded]
  rfl

theorem saveWorkflow_files (w : Workflow) :
    saveWorkflow w s = (.ok (), (storeWorkflows shelf (placeWorkflow w.id w found) unreadable s').2) := by
  rw [saveWorkflow, Act.bind_run_ok (ask_files kind)]
  dsimp only
  rw [Act.bind_run_ok loaded]
  rfl

theorem updateWorkflow_files (id : String) (change : Workflow → Workflow) : updateWorkflow id change s =
    match found.find? fun w => w.id = id with
    | some w => (.ok (change w), (storeWorkflows shelf (placeWorkflow id (change w) found) unreadable s').2)
    | none => (.error (.workflowMissing id), s') := by
  rw [updateWorkflow, Act.bind_run_ok (ask_files kind)]
  dsimp only
  rw [Act.bind_run_ok loaded]
  dsimp only
  cases found.find? fun w => w.id = id <;> rfl

theorem deleteWorkflow_files (id : String) : deleteWorkflow id s =
    if found.any fun w => w.id = id then
      (.ok true, (storeWorkflows shelf (found.filter fun w => w.id ≠ id) unreadable s').2)
    else (.ok false, s') := by
  have all : (found.filter fun w => w.id ≠ id).length = found.length ↔ ¬ (found.any fun w => w.id = id) := by
    rw [List.length_filter_eq_length_iff]
    simp
  rw [deleteWorkflow, Act.bind_run_ok (ask_files kind)]
  dsimp only
  rw [Act.bind_run_ok loaded]
  dsimp only
  split
  · rename_i kept
    rw [if_neg (all.mp kept)]
    rfl
  · rename_i fewer
    rw [if_pos (not_not.mp (mt all.mpr fewer))]
    rfl

end Files

section Reading

variable {P : Store → Prop} (drawn : ∀ {s}, P s → ∀ n, P { s with drawn := n }) {α : Type}
include drawn

/-- Reading a record changes no more than how many identifiers have been drawn. -/
theorem readRecord_preserves (read : Fresh → Json → Reading α) (datum : Json) :
    (readRecord read datum).Preserves P := by
  intro s held
  unfold readRecord
  dsimp only
  split
  · exact drawn held _
  · exact held

theorem sortItems_preserves (items : List Json) : (sortItems items).Preserves P := by
  induction items with
  | nil => exact .pure _
  | cons item rest ih =>
    refine (readRecord_preserves drawn _ _).bind fun reading => ih.bind fun _ => ?_
    cases reading <;> exact .pure _

theorem loadWorkflows_preserves (shelf : Shelf) : (loadWorkflows shelf).Preserves P :=
  .bind (.ask _) fun _ => .bind (.lift _ _) fun _ => sortItems_preserves drawn _

end Reading

end Store

end TriggerFlow
