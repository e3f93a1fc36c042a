import TriggerFlow.Proofs.World

/-!
# What runs leave untouched

Runs read and write executions, and the launches count them in the workflows. A property of the store that takes no
notice of executions and identifiers holds before and after whatever runs ask of the store, be its records in memory or
in files. One that takes no notice of workflows holds before and after they are counted.
-/

namespace TriggerFlow

/-- How the path inside a directory begins. -/
def frontOf (directory : String) : String :=
  if directory = "." then "" else if directory.endsWith "/" then directory else directory ++ "/"

theorem inDirectory_eq (directory name : String) : inDirectory directory name = frontOf directory ++ name := by
  unfold inDirectory frontOf
  split
  · exact String.empty_append.symm
  · split <;> rfl

namespace Shelf

/-- The memory of triggers does not lie where workflows are. -/
theorem workflows_ne_triggers (shelf : Shelf) : shelf.workflows ≠ shelf.triggers := by
  rw [workflows, triggers, inDirectory_eq, inDirectory_eq, Ne, String.append_right_inj]
  decide

/-- Executions lie in a directory of their own. -/
theorem exists_execution (shelf : Shelf) (id : String) :
    ∃ rest, shelf.execution id = frontOf shelf.root ++ ("executions" ++ rest) := by
  rw [execution, executions, inDirectory_eq shelf.root, inDirectory_eq]
  generalize frontOf shelf.root = front
  unfold frontOf
  split
  · rename_i dot
    have length := congrArg String.length dot
    rw [String.length_append] at length
    have long : front.length + 10 = 1 := length
    omega
  · split
    · exact ⟨id ++ ".json", by rw [String.append_assoc]⟩
    · exact ⟨"/" ++ (id ++ ".json"), by simp only [String.append_assoc]⟩

/-- Nor does it lie where executions are, whatever their identifiers. -/
theorem execution_ne_triggers (shelf : Shelf) (id : String) : shelf.execution id ≠ shelf.triggers := by
  obtain ⟨rest, path⟩ := shelf.exists_execution id
  rw [path, triggers, inDirectory_eq, Ne, String.append_right_inj]
  intro same
  have heads : 'e' = 't' := by simpa using congrArg (fun name => name.toList.head?) same
  exact absurd heads (by decide)

/-- Workflows do not lie there either. -/
theorem execution_ne_workflows (shelf : Shelf) (id : String) : shelf.execution id ≠ shelf.workflows := by
  obtain ⟨rest, path⟩ := shelf.exists_execution id
  rw [path, workflows, inDirectory_eq, Ne, String.append_right_inj]
  intro same
  have heads : 'e' = 'w' := by simpa using congrArg (fun name => name.toList.head?) same
  exact absurd heads (by decide)

end Shelf

namespace Store

/-- A property that takes no notice of executions and identifiers. -/
structure FreeOfExecutions (P : Store → Prop) : Prop where
  drawn : ∀ {s}, P s → ∀ n, P { s with drawn := n }
  memoryRuns : ∀ {s m}, s.keeping = .memory m → P s → ∀ executions,
    P { s with keeping := .memory { m with executions } }
  setRun : ∀ {s shelf}, s.keeping = .files shelf → P s → ∀ id text,
    P { s with folder := Ordered.set s.folder (shelf.execution id) text }
  eraseRun : ∀ {s shelf}, s.keeping = .files shelf → P s → ∀ id,
    P { s with folder := Ordered.erase s.folder (shelf.execution id) }

/-- A property that takes no notice of workflows and identifiers. -/
structure FreeOfWorkflows (P : Store → Prop) : Prop where
  drawn : ∀ {s}, P s → ∀ n, P { s with drawn := n }
  memoryWorkflows : ∀ {s m}, s.keeping = .memory m → P s → ∀ workflows,
    P { s with keeping := .memory { m with workflows } }
  setWorkflows : ∀ {s shelf}, s.keeping = .files shelf → P s → ∀ text,
    P { s with folder := Ordered.set s.folder shelf.workflows text }

/-- A property that takes no notice of workflows, executions and identifiers. -/
structure Indifferent (P : Store → Prop) : Prop extends FreeOfExecutions P, FreeOfWorkflows P

/-- What is done by how records are kept is preserved if it is in either case. -/
theorem preserves_keeping {α : Type} {P : Store → Prop} {f : Keeping → Act Store α}
    (each : ∀ s, P s → P (f s.keeping s).2) : (Act.ask keeping >>= f).Preserves P := each

namespace FreeOfExecutions

variable {P : Store → Prop} (free : FreeOfExecutions P)
include free

theorem draw : Store.draw.Preserves P := fun _ held => free.drawn held _

theorem loadExecution (path : String) : (Store.loadExecution path).Preserves P := by
  refine .bind (.ask _) fun text => ?_
  split
  · exact .pure _
  · exact (readRecord_preserves free.drawn _ _).map

theorem execution? (id : String) : (Store.execution? id).Preserves P := by
  refine .bind (.ask _) fun kind => ?_
  cases kind with
  | memory m => exact .pure _
  | files shelf => exact free.loadExecution _

theorem saveExecution (e : Execution) : (Store.saveExecution e).Preserves P := by
  refine preserves_keeping fun s held => ?_
  cases kind : s.keeping with
  | memory m => exact free.memoryRuns kind held _
  | files shelf => exact free.setRun kind held _ _

theorem appendLog (id : String) (entry : LogEntry) : (Store.appendLog id entry).Preserves P := by
  refine preserves_keeping fun s held => ?_
  cases kind : s.keeping with
  | memory m =>
    dsimp only [MemoryStore.appendLog?]
    cases m.executions.get? id with
    | none => exact held
    | some e => exact free.memoryRuns kind held _
  | files shelf =>
    refine Act.Preserves.bind (free.loadExecution _) (fun found => ?_) s held
    cases found with
    | none => exact .fail _
    | some e => exact free.saveExecution _

theorem forgetExecution (id : String) : (Store.forgetExecution id).Preserves P := by
  refine preserves_keeping fun s held => ?_
  cases kind : s.keeping with
  | memory m => exact free.memoryRuns kind held _
  | files shelf => exact free.eraseRun kind held _

theorem loadExecutions (shelf : Shelf) : ∀ names, (Store.loadExecutions shelf names).Preserves P
  | [] => .pure _
  | _ :: rest => (free.loadExecution _).bind fun _ => (loadExecutions shelf rest).bind fun _ => .pure _

theorem executions (selection : Selection) : (Store.executions selection).Preserves P := by
  refine .bind (.bind (.ask _) fun kind => ?_) fun _ => .lift _ _
  cases kind with
  | memory m => exact .pure _
  | files shelf => exact .bind (.ask _) fun _ => free.loadExecutions _ _

end FreeOfExecutions

namespace FreeOfWorkflows

variable {P : Store → Prop} (free : FreeOfWorkflows P)
include free

theorem workflow? (id : String) : (Store.workflow? id).Preserves P := by
  refine .bind (.ask _) fun kind => ?_
  cases kind with
  | memory m => exact .pure _
  | files shelf => exact (loadWorkflows_preserves free.drawn shelf).bind fun _ => .pure _

/-- Where records are kept does not change either. -/
theorem filed (shelf : Shelf) : FreeOfWorkflows fun s => P s ∧ s.keeping = .files shelf where
  drawn held n := ⟨free.drawn held.1 n, held.2⟩
  memoryWorkflows kind held := nomatch kind.symm.trans held.2
  setWorkflows kind held text := ⟨free.setWorkflows kind held.1 text, held.2⟩

theorem storeWorkflows (shelf : Shelf) (workflows : List Workflow) (unreadable : List Json) :
    (Store.storeWorkflows shelf workflows unreadable).Preserves fun s => P s ∧ s.keeping = .files shelf :=
  fun _ held => (free.filed shelf).setWorkflows held.2 held _

/-- What is done with the workflows of a shelf is done while records are kept there. -/
theorem reshelve {α : Type} {s : Store} {shelf : Shelf} (kind : s.keeping = .files shelf) (held : P s)
    {x : List Workflow × List Json → Act Store α}
    (each : ∀ found, (x found).Preserves fun s => P s ∧ s.keeping = .files shelf) :
    P ((Store.loadWorkflows shelf >>= x) s).2 :=
  ((loadWorkflows_preserves (free.filed shelf).drawn shelf).bind each s ⟨held, kind⟩).1

theorem saveWorkflow (w : Workflow) : (Store.saveWorkflow w).Preserves P := by
  refine preserves_keeping fun s held => ?_
  cases kind : s.keeping with
  | memory m => exact free.memoryWorkflows kind held _
  | files shelf => exact free.reshelve kind held fun _ => free.storeWorkflows shelf _ _

theorem updateWorkflow (id : String) (change : Workflow → Workflow) : (Store.updateWorkflow id change).Preserves P := by
  refine preserves_keeping fun s held => ?_
  cases kind : s.keeping with
  | memory m =>
    dsimp only [MemoryStore.updateWorkflow?]
    cases m.workflows.get? id with
    | none => exact held
    | some w => exact free.memoryWorkflows kind held _
  | files shelf =>
    refine free.reshelve kind held fun found => ?_
    dsimp only
    cases found.1.find? fun w => w.id = id with
    | none => exact .fail _
    | some w => exact (free.storeWorkflows shelf _ _).bind fun _ => .pure _

theorem deleteWorkflow (id : String) : (Store.deleteWorkflow id).Preserves P := by
  refine preserves_keeping fun s held => ?_
  cases kind : s.keeping with
  | memory m => exact free.memoryWorkflows kind held _
  | files shelf =>
    refine free.reshelve kind held fun found => ?_
    dsimp only
    split
    · exact .pure _
    · exact (free.storeWorkflows shelf _ _).bind fun _ => .pure _

end FreeOfWorkflows

end Store

namespace Run

variable {σ : Type} {s : Surroundings σ}

/-- Whatever is asked of the surroundings, a property of their state still holds if it did before. -/
structure Surroundings.Preserve (s : Surroundings σ) (P : σ → Prop) : Prop where
  load : ∀ id, (s.load id).Preserves P
  save : ∀ e, (s.save e).Preserves P
  append : ∀ id entry, (s.append id entry).Preserves P
  waiting : s.waiting.Preserves P
  respond : ∀ sending w, P w → P (s.respond sending w).2.2
  suffer : ∀ effect, (s.suffer effect).Preserves P

end Run

namespace World

variable {δ α : Type} {P : Store → Prop}

theorem inStore_preserves {x : Act Store α} (preserves : x.Preserves P) :
    (inStore x : Act (World δ) α).Preserves fun w => P w.store := fun w held => preserves w.store held

/-- What holds at any time outlasts the time that passes. -/
theorem pass_preserves (always : ∀ {s}, P s → ∀ time, P { s with now := time }) (micros : Int) :
    (pass micros).Preserves P := by
  intro s held
  unfold pass
  split
  · exact always held _
  · exact held

/-- What takes no notice of executions, and outlasts the time that passes, is preserved by all surroundings. -/
theorem preserve (d : Action.Dispatcher δ) (cancelAt : Option String) (free : Store.FreeOfExecutions P)
    (passing : ∀ micros, (pass micros).Preserves P) : (surroundings d cancelAt).Preserve fun w => P w.store where
  load id := inStore_preserves (free.execution? id)
  save e := inStore_preserves (free.saveExecution e)
  append id entry := (inStore_preserves (free.appendLog id entry)).bind fun _ => .pure _
  waiting := inStore_preserves (free.executions _)
  respond _ _ held := held
  suffer effect := by
    cases effect with
    | pass micros => exact inStore_preserves (passing micros)
    | forget id => exact inStore_preserves (free.forgetExecution id)
    | draw => exact (inStore_preserves free.draw).bind fun _ => .pure _
    | cancel id => exact .pure _

end World

end TriggerFlow
