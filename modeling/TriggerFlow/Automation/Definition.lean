import TriggerFlow.Automation.Basic
import TriggerFlow.Catalogue

/-!
What can be done with the definitions of workflows. Drafts may have any shape; a workflow that is enabled
has a graph without defects, before and after every edit.
-/

namespace TriggerFlow

/-- An edit of a definition: the new values of what is to change. -/
structure Edit where
  name : Option String
  description : Option String
  category : Option String
  nodes : Option (List Node)
  edges : Option (List Edge)
  vars : Option Members
  deriving DecidableEq, Repr

namespace Edit

open Record

/-- The members that an edit may have. -/
def fields : List String := ["name", "description", "category", "nodes", "edges", "variables"]

/-- The members of an edit that are not editable, in order. -/
def unknown (changes : Members) : List String :=
  (changes.keys.filter fun key => !fields.contains key).mergeSort fun a b => !decide (b < a)

/-- Reads the members that are there. -/
def ofRecord (changes : Members) : Reading Edit :=
  let given {α : Type} (key : String) (read : Json → Reading α) : Reading (Option α) :=
    optional changes key none fun datum => some <$> read datum
  Edit.mk <$> given "name" text <*> given "description" text <*> given "category" text <*>
    given "nodes" (items Node.ofRecord) <*> given "edges" (items Edge.ofRecord) <*>
    given "variables" members

/-- The edit that replaces a graph. -/
def ofGraph (g : Graph) : Edit := ⟨none, none, none, some g.nodes, some g.edges, none⟩

/-- Whether an edit gives nodes or edges, be they the same as before. -/
def touchesGraph (edit : Edit) : Bool := edit.nodes.isSome || edit.edges.isSome

/-- A definition after an edit. An edit of the graph counts up the version. -/
def apply (edit : Edit) (time : Instant) (w : Workflow) : Workflow :=
  { w with
    name := edit.name.getD w.name
    description := edit.description.getD w.description
    category := edit.category.getD w.category
    nodes := edit.nodes.getD w.nodes
    edges := edit.edges.getD w.edges
    vars := edit.vars.getD w.vars
    version := if edit.touchesGraph then w.version + 1 else w.version
    updatedAt := time }

end Edit

namespace Store

/-- The workflow with an identifier, which must be there. -/
def theWorkflow (id : String) : Act Store Workflow := do
  match (← workflow? id) with
  | some w => pure w
  | none => Act.fail (.workflowMissing id)

/-- Fails with the first defect of an enabled workflow. -/
def requireSoundIfEnabled (w : Workflow) : Act Store Unit :=
  if w.enabled then Launcher.requireSound w.graph else pure ()

/-- Adds a definition. Whatever it says of runs and of its own time is set anew. -/
def createWorkflow (w : Workflow) : Act Store Workflow := do
  requireSoundIfEnabled w
  let now ← Act.ask now
  let stored := { w with
    executionCount := 0, errorCount := 0, lastExecutedAt := none, createdAt := now, updatedAt := now }
  saveWorkflow stored
  pure stored

/-- Adds the definition in a record. -/
def createOfRecord (datum : Json) : Act Store Workflow := do
  let w ← require Workflow.ofRecord datum
  createWorkflow w

/-- Edits a definition. -/
def reviseWorkflow (id : String) (edit : Reading Edit) : Act Store Workflow := do
  let w ← theWorkflow id
  let now ← Act.ask now
  match edit with
  | .issues found => Act.fail (.record found)
  | .value edit => do
    let candidate := edit.apply now w
    requireSoundIfEnabled candidate
    saveWorkflow candidate
    pure candidate

/-- Edits a definition by the members of a record. -/
def editWorkflow (id : String) (changes : Members) : Act Store Workflow :=
  match Edit.unknown changes with
  | [] => reviseWorkflow id (Edit.ofRecord changes)
  | fields => Act.fail (.notEditable fields)

/-- Removes a definition; its runs stay. -/
def removeWorkflow (id : String) : Act Store Unit := do
  if (← deleteWorkflow id) then pure () else Act.fail (.workflowMissing id)

/-- Enables a workflow whose graph has no defects. -/
def enableWorkflow (id : String) : Act Store Workflow := do
  let w ← theWorkflow id
  Launcher.requireSound w.graph
  updateWorkflow id fun stored => { stored with enabled := true }

def disableWorkflow (id : String) : Act Store Workflow := do
  let _ ← theWorkflow id
  updateWorkflow id fun stored => { stored with enabled := false }

/-- The defects of a workflow. -/
def workflowDefects (id : String) : Act Store (List Defect) := do
  let w ← theWorkflow id
  Act.lift .setting w.graph.defects

/-- The document of a workflow. -/
def exportWorkflow (id : String) : Act Store Json := do
  let w ← theWorkflow id
  pure w.graph.toDocument

/-- Makes a draft of a document, or puts the graph of the document in the place of another. -/
def importWorkflow (document : Json) (name id : Option String) : Act Store Workflow := do
  let g ← Act.lift .document (Graph.ofDocument document)
  match id with
  | some id => reviseWorkflow id (.value (Edit.ofGraph g))
  | none => do
    let fresh ← draw
    let own := name.getD ""
    createWorkflow (Workflow.draft fresh (if own = "" then "Imported workflow" else own) g.nodes g.edges)

/-- Makes a draft of a template. -/
def createFromTemplate (id : String) (name : Option String) : Act Store Workflow := do
  let b ← Act.lift (fun f => f) (Catalogue.named id)
  let fresh ← draw
  createWorkflow (b.draft fresh name none)

/-- The run with an identifier, which must be there. -/
def theExecution (id : String) : Act Store Execution := do
  match (← execution? id) with
  | some e => pure e
  | none => Act.fail (.executionMissing id)

end Store

end TriggerFlow
