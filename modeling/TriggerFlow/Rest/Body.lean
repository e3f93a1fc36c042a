import TriggerFlow.Automation.Definition
import TriggerFlow.Execution

/-!
What requests bring in their bodies, and what answers hold.
-/

namespace TriggerFlow.Rest

open Record

/-- A new definition. Identifiers, versions and counts are not for callers to choose. -/
structure Creation where
  name : String
  description : String
  category : String
  nodes : List Node
  edges : List Edge
  vars : Members
  enabled : Bool
  deriving DecidableEq, Repr

def Creation.ofRecord : Json → Reading Creation :=
  ofObject fun m =>
    Creation.mk <$> required m "name" nonemptyText <*> optional m "description" "" text <*>
      optional m "category" "" text <*> optional m "nodes" [] (items Node.ofRecord) <*>
      optional m "edges" [] (items Edge.ofRecord) <*> optional m "variables" [] members <*>
      optional m "enabled" false truth

/-- The workflow that is created. -/
def Creation.workflow (c : Creation) (fresh : Fresh) : Workflow :=
  { Workflow.draft fresh c.name c.nodes c.edges with
    description := c.description, category := c.category, vars := c.vars
    enabled := c.enabled }

/-- An edit; a member that is null changes nothing. -/
def editOfRecord : Json → Reading Edit :=
  ofObject fun m =>
    let given {α : Type} (key : String) (read : Json → Reading α) : Reading (Option α) :=
      optional m key none (nullable read)
    Edit.mk <$> given "name" nonemptyText <*> given "description" text <*> given "category" text <*>
      given "nodes" (items Node.ofRecord) <*> given "edges" (items Edge.ofRecord) <*>
      given "variables" members

/-- A document to import. -/
structure Import where
  document : Members
  name : Option String
  id : Option String
  deriving DecidableEq, Repr

def Import.ofRecord : Json → Reading Import :=
  ofObject fun m =>
    Import.mk <$> required m "graph" members <*> optional m "name" none (nullable text) <*>
      optional m "workflow_id" none (nullable text)

/-- The name for a draft of a template. -/
def nameOfRecord : Json → Reading (Option String) :=
  ofObject fun m => optional m "name" none (nullable text)

/-- Variables for a run. -/
def variablesOfRecord : Json → Reading Members := ofObject fun m => optional m "variables" [] members

/-- The payload of an event. -/
def payloadOfRecord : Json → Reading Members := ofObject fun m => optional m "payload" [] members

/-- When and with what a tick is to happen. -/
structure Beat where
  time : Option Instant
  context : Members
  deriving DecidableEq, Repr

def Beat.ofRecord : Json → Reading Beat :=
  ofObject fun m =>
    Beat.mk <$> optional m "now" none (nullable instant) <*> optional m "context" [] members

/-- What answers show of a run. -/
def runMembers (e : Execution) : Except TimeFault Members := do
  let duration ← e.duration?
  return [("id", .text e.id), ("workflow_id", .text e.workflowId), ("status", .text e.status.name),
    ("trigger_type", .text e.trigger.name), ("started_at", .text e.startedAt.recordText),
    ("completed_at", Workflow.instantRecord e.completedAt),
    ("duration_seconds", match duration with
      | some seconds => .float seconds
      | none => .null),
    ("current_node_id", .ofText? e.nodeId), ("error", .ofText? e.error)]

def runRecord (e : Execution) : Except TimeFault Json := Json.object <$> runMembers e

/-- All that answers show of a run. -/
def runDetail (e : Execution) : Except TimeFault Json := do
  let shown ← runMembers e
  return .object (shown ++ [("variables", .object e.vars),
    ("logs", .list (e.log.map LogEntry.toRecord)), ("graph_version", .int e.graph.version)])

/-- What answers show of a template. -/
def blueprintRecord (b : Blueprint) : Json :=
  .object [("id", .text b.id), ("name", .text b.name), ("description", .text b.description),
    ("category", .text b.category), ("node_count", .int b.graph.nodes.length),
    ("edge_count", .int b.graph.edges.length)]

mutual

/-- A datum without numbers that JSON cannot write: they become null. -/
def writable : Json → Json
  | .float x => if x.isFinite then .float x else .null
  | .list items => .list (writableItems items)
  | .object members => .object (writableMembers members)
  | datum => datum

def writableItems : List Json → List Json
  | [] => []
  | item :: rest => writable item :: writableItems rest

def writableMembers : List (String × Json) → List (String × Json)
  | [] => []
  | (key, value) :: rest => (key, writable value) :: writableMembers rest

end

end TriggerFlow.Rest
