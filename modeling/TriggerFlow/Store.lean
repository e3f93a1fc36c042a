import TriggerFlow.Act
import TriggerFlow.Store.Folder
import TriggerFlow.Execution
import TriggerFlow.Trigger.Memory

/-!
The store of workflows, executions and trigger memory, in memory or in files. Both kinds answer the same
questions; reading files may draw fresh identifiers for records that bring none.
-/

namespace TriggerFlow

/-! ### Records in memory -/

/-- Records by identifier, in the order in which they came. -/
structure MemoryStore where
  workflows : Ordered Workflow
  executions : Ordered Execution
  triggers : Ordered TriggerMemory
  deriving DecidableEq, Repr, Inhabited

namespace MemoryStore

def empty : MemoryStore := ⟨[], [], []⟩

def saveWorkflow (w : Workflow) (m : MemoryStore) : MemoryStore :=
  { m with workflows := m.workflows.set w.id w }

/-- Changes a workflow in its place; none if there is no workflow there. -/
def updateWorkflow? (id : String) (change : Workflow → Workflow) (m : MemoryStore) :
    Option (Workflow × MemoryStore) :=
  (m.workflows.get? id).map fun w => (change w, { m with workflows := m.workflows.set id (change w) })

def deleteWorkflow (id : String) (m : MemoryStore) : MemoryStore :=
  { m with workflows := m.workflows.erase id }

def saveExecution (e : Execution) (m : MemoryStore) : MemoryStore :=
  { m with executions := m.executions.set e.id e }

/-- Adds an entry to the log of a record; none if there is no record. -/
def appendLog? (id : String) (entry : LogEntry) (m : MemoryStore) : Option MemoryStore :=
  (m.executions.get? id).map fun e =>
    { m with executions := m.executions.set id { e with log := e.log ++ [entry] } }

def forgetExecution (id : String) (m : MemoryStore) : MemoryStore :=
  { m with executions := m.executions.erase id }

end MemoryStore

/-! ### Records in memory or in files -/

/-- Where records are kept. -/
inductive Keeping where
  | memory (m : MemoryStore)
  | files (shelf : Shelf)
  deriving DecidableEq, Repr

/-- The store, with the clock and the count of identifiers that have been drawn. -/
structure Store where
  now : Instant
  drawn : Nat
  folder : Folder
  keeping : Keeping
  deriving DecidableEq, Repr

namespace Store

/-- The identifier of a count: 32 hexadecimal digits. -/
def idOfCount (n : Nat) : String := Text.padHex 32 n

/-- What a new record would take. -/
def fresh (s : Store) : Fresh := ⟨idOfCount (s.drawn + 1), s.now⟩

/-- Uses up the fresh identifier. -/
def draw : Act Store Fresh := fun s => (.ok s.fresh, { s with drawn := s.drawn + 1 })

/-- Reads a record that may draw an identifier. -/
def readRecord {α : Type} (read : Fresh → Json → Reading α) (datum : Json) :
    Act Store (Reading α) := fun s =>
  (.ok (read s.fresh datum), if Record.drawsId datum then { s with drawn := s.drawn + 1 } else s)

/-- Reads a record, or fails with its issues. -/
def require {α : Type} (read : Fresh → Json → Reading α) (datum : Json) : Act Store α := do
  match (← readRecord read datum) with
  | .value a => pure a
  | .issues found => Act.fail (.record found)

def setMemory (m : MemoryStore) : Act Store Unit := Act.modify fun s => { s with keeping := .memory m }

def fileText (path : String) : Act Store (Option String) := Act.ask fun s => s.folder.get? path

def setFile (path text : String) : Act Store Unit :=
  Act.modify fun s => { s with folder := s.folder.set path text }

/-- Sorts the records of a file into readable workflows and the rest. -/
def sortItems : List Json → Act Store (List Workflow × List Json)
  | [] => pure ([], [])
  | item :: rest => do
    let reading ← readRecord Workflow.ofRecord item
    let (workflows, unreadable) ← sortItems rest
    match reading with
    | .value w => pure (w :: workflows, unreadable)
    | .issues _ => pure (workflows, item :: unreadable)

/-- The workflows of a shelf and its unreadable records. -/
def loadWorkflows (shelf : Shelf) : Act Store (List Workflow × List Json) := do
  let text ← fileText shelf.workflows
  let items ← Act.lift .json (workflowItems text)
  sortItems items

def storeWorkflows (shelf : Shelf) (workflows : List Workflow) (unreadable : List Json) :
    Act Store Unit :=
  setFile shelf.workflows (workflowsText workflows unreadable)

/-- All workflows in order. -/
def workflows : Act Store (List Workflow) := do
  match (← Act.ask keeping) with
  | .memory m => pure m.workflows.values
  | .files shelf => Prod.fst <$> loadWorkflows shelf

/-- The workflow with an identifier. -/
def workflow? (id : String) : Act Store (Option Workflow) := do
  match (← Act.ask keeping) with
  | .memory m => pure (m.workflows.get? id)
  | .files shelf => do
    let (found, _) ← loadWorkflows shelf
    pure (found.find? fun w => w.id = id)

/-- Puts a workflow in the place of the first one that is chosen, or at the end. -/
def placeWorkflow (id : String) (w : Workflow) : List Workflow → List Workflow
  | [] => [w]
  | first :: rest => if first.id = id then w :: rest else first :: placeWorkflow id w rest

def saveWorkflow (w : Workflow) : Act Store Unit := do
  match (← Act.ask keeping) with
  | .memory m => setMemory (m.saveWorkflow w)
  | .files shelf => do
    let (found, unreadable) ← loadWorkflows shelf
    storeWorkflows shelf (placeWorkflow w.id w found) unreadable

/-- Changes the workflow with an identifier. -/
def updateWorkflow (id : String) (change : Workflow → Workflow) : Act Store Workflow := do
  match (← Act.ask keeping) with
  | .memory m =>
    match m.updateWorkflow? id change with
    | some (w, m) => do
      setMemory m
      pure w
    | none => Act.fail (.workflowMissing id)
  | .files shelf => do
    let (found, unreadable) ← loadWorkflows shelf
    match found.find? fun w => w.id = id with
    | some w => do
      storeWorkflows shelf (placeWorkflow id (change w) found) unreadable
      pure (change w)
    | none => Act.fail (.workflowMissing id)

/-- Deletes the workflow with an identifier; the answer tells whether there was one. -/
def deleteWorkflow (id : String) : Act Store Bool := do
  match (← Act.ask keeping) with
  | .memory m => do
    setMemory (m.deleteWorkflow id)
    pure (m.workflows.has id)
  | .files shelf => do
    let (found, unreadable) ← loadWorkflows shelf
    let kept := found.filter fun w => w.id ≠ id
    if kept.length = found.length then pure false
    else do
      storeWorkflows shelf kept unreadable
      pure true

/-- The execution in a file; none if the file is missing or cannot be read. -/
def loadExecution (path : String) : Act Store (Option Execution) := do
  match (← fileText path).bind Json.read? with
  | none => pure none
  | some datum => Reading.value? <$> readRecord Execution.ofRecord datum

def saveExecution (e : Execution) : Act Store Unit := do
  match (← Act.ask keeping) with
  | .memory m => setMemory (m.saveExecution e)
  | .files shelf => setFile (shelf.execution e.id) e.toRecord.fileText

/-- Adds an entry to the log of a stored execution. -/
def appendLog (id : String) (entry : LogEntry) : Act Store Unit := do
  match (← Act.ask keeping) with
  | .memory m =>
    match m.appendLog? id entry with
    | some m => setMemory m
    | none => Act.fail (.executionMissing id)
  | .files shelf => do
    match (← loadExecution (shelf.execution id)) with
    | some e => saveExecution { e with log := e.log ++ [entry] }
    | none => Act.fail (.executionMissing id)

def execution? (id : String) : Act Store (Option Execution) := do
  match (← Act.ask keeping) with
  | .memory m => pure (m.executions.get? id)
  | .files shelf => loadExecution (shelf.execution id)

/-- Loses the record of an execution. -/
def forgetExecution (id : String) : Act Store Unit := do
  match (← Act.ask keeping) with
  | .memory m => setMemory (m.forgetExecution id)
  | .files shelf => Act.modify fun s => { s with folder := s.folder.erase (shelf.execution id) }

/-- The executions in files, one after the other. -/
def loadExecutions (shelf : Shelf) : List String → Act Store (List Execution)
  | [] => pure []
  | name :: rest => do
    let first ← loadExecution (inDirectory shelf.executions name)
    let others ← loadExecutions shelf rest
    pure (first.toList ++ others)

/-- All executions, in the order of the store. -/
def allExecutions : Act Store (List Execution) := do
  match (← Act.ask keeping) with
  | .memory m => pure m.executions.values
  | .files shelf => do
    let folder ← Act.ask folder
    loadExecutions shelf (shelf.executionFiles folder)

/-- Newest first; executions begun at the same time keep their order. Begins with and without an offset
cannot be ordered. -/
def newestFirst (found : List Execution) : Except TimeFault (List Execution) :=
  let aware (e : Execution) : Bool := e.startedAt.isAware
  if found.all aware || found.all fun e => !aware e then
    .ok (found.mergeSort fun a b => decide (b.startedAt.universal ≤ a.startedAt.universal))
  else .error .mixedOrder

/-- Which executions a list is to hold. -/
structure Selection where
  workflowId : Option String
  status : Option Status
  deriving DecidableEq, Repr

def Selection.holds (selection : Selection) (e : Execution) : Bool :=
  (selection.workflowId.all fun id => e.workflowId = id) &&
    selection.status.all fun status => e.status = status

/-- The selected executions, newest first. -/
def executions (selection : Selection) : Act Store (List Execution) := do
  let found ← allExecutions
  Act.lift .time (newestFirst (found.filter selection.holds))

def triggers : Act Store (Ordered TriggerMemory) := do
  match (← Act.ask keeping) with
  | .memory m => pure m.triggers
  | .files shelf => triggersOfText <$> fileText shelf.triggers

def saveTriggers (t : Ordered TriggerMemory) : Act Store Unit := do
  match (← Act.ask keeping) with
  | .memory m => setMemory { m with triggers := t }
  | .files shelf => setFile shelf.triggers (triggersText t)

end Store

end TriggerFlow
