import TriggerFlow.Graph.Record
import TriggerFlow.Instant.Printer

/-!
Workflow definitions: a graph that may be edited, the variables its runs begin with, and counts of
those runs.
-/

namespace TriggerFlow

/-- What a new record takes from outside itself: an identifier nobody has and the time of its creation. -/
structure Fresh where
  id : String
  now : Instant
  deriving DecidableEq, Repr, Inhabited

/-- A record that brings no identifier of its own draws a fresh one, also if it turns out unreadable. -/
def Record.drawsId : Json → Bool
  | .object m => !Ordered.has m "id"
  | _ => false

structure Workflow where
  id : String
  name : String
  description : String
  category : String
  templateId : Option String
  enabled : Bool
  /-- Counts the edits of the graph. -/
  version : Int
  nodes : List Node
  edges : List Edge
  vars : Members
  executionCount : Int
  errorCount : Int
  lastExecutedAt : Option Instant
  createdAt : Instant
  updatedAt : Instant
  deriving DecidableEq, Repr, Inhabited

namespace Workflow

open Record

/-- The graph as it stands. -/
def graph (w : Workflow) : Graph := ⟨w.nodes, w.edges, w.version⟩

def trigger? (w : Workflow) : Option (Node × Trigger) := w.graph.trigger?

/-- A new draft without runs. -/
def draft (fresh : Fresh) (name : String) (nodes : List Node) (edges : List Edge) : Workflow :=
  ⟨fresh.id, name, "", "", none, false, 1, nodes, edges, [], 0, 0, none, fresh.now, fresh.now⟩

def ofRecord (fresh : Fresh) : Json → Reading Workflow :=
  ofObject fun m =>
    Workflow.mk <$> optional m "id" fresh.id text <*> required m "name" text <*>
      optional m "description" "" text <*> optional m "category" "" text <*>
      optional m "template_id" none (nullable text) <*> optional m "enabled" false truth <*>
      optional m "version" 1 integer <*> optional m "nodes" [] (items Node.ofRecord) <*>
      optional m "edges" [] (items Edge.ofRecord) <*> optional m "variables" [] members <*>
      optional m "execution_count" 0 integer <*> optional m "error_count" 0 integer <*>
      optional m "last_executed_at" none (nullable instant) <*>
      optional m "created_at" fresh.now instant <*> optional m "updated_at" fresh.now instant

/-- A point in time, or null in its absence. -/
def instantRecord : Option Instant → Json
  | some t => .text t.recordText
  | none => .null

def toRecord (w : Workflow) : Json :=
  .object [("id", .text w.id), ("name", .text w.name), ("description", .text w.description),
    ("category", .text w.category), ("template_id", .ofText? w.templateId),
    ("enabled", .bool w.enabled), ("version", .int w.version),
    ("nodes", .list (w.nodes.map Node.toRecord)), ("edges", .list (w.edges.map Edge.toRecord)),
    ("variables", .object w.vars), ("execution_count", .int w.executionCount),
    ("error_count", .int w.errorCount), ("last_executed_at", instantRecord w.lastExecutedAt),
    ("created_at", .text w.createdAt.recordText), ("updated_at", .text w.updatedAt.recordText)]

end Workflow

end TriggerFlow
