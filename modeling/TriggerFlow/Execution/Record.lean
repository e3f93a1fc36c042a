import TriggerFlow.Execution

/-!
Executions as records.
-/

namespace TriggerFlow

open Record
open Workflow (instantRecord)

def LogEntry.ofRecord (fresh : Fresh) : Json → Reading LogEntry :=
  ofObject fun m =>
    LogEntry.mk <$> optional m "timestamp" fresh.now instant <*> required m "node_id" text <*>
      required m "action" text <*> required m "status" (choice .notAChoice Outcome.named?) <*>
      required m "message" text <*> optional m "data" none (nullable members)

def LogEntry.toRecord (entry : LogEntry) : Json :=
  .object [("timestamp", .text entry.time.recordText), ("node_id", .text entry.nodeId),
    ("action", .text entry.action), ("status", .text entry.outcome.name),
    ("message", .text entry.message), ("data", match entry.data with
      | some m => .object m
      | none => .null)]

namespace Wait

def ofRecord : Json → Reading Wait :=
  ofObject fun m =>
    Wait.mk <$> optional m "resume_at" none (nullable instant) <*>
      optional m "expression" none (nullable text) <*> optional m "deadline" none (nullable instant)

/-- The members of the record, in order. -/
def members (wait : Wait) : Members :=
  [("resume_at", instantRecord wait.resumeAt), ("expression", .ofText? wait.expression),
    ("deadline", instantRecord wait.deadline)]

def toRecord (wait : Wait) : Json := .object wait.members

/-- The members that are there. -/
def present (wait : Wait) : Members := wait.members.filter fun m => m.2 ≠ .null

end Wait

namespace Execution

def ofRecord (fresh : Fresh) : Json → Reading Execution :=
  ofObject fun m =>
    Execution.mk <$> optional m "id" fresh.id text <*> required m "workflow_id" text <*>
      optional m "status" .pending (choice .notAChoice Status.named?) <*>
      optional m "trigger_type" .manual (choice .notAChoice TriggerKind.named?) <*>
      optional m "started_at" fresh.now instant <*>
      optional m "completed_at" none (nullable instant) <*>
      optional m "current_node_id" none (nullable text) <*> optional m "variables" [] Record.members <*>
      optional m "logs" [] (items (LogEntry.ofRecord fresh)) <*>
      optional m "error" none (nullable text) <*> optional m "graph" ⟨[], [], 1⟩ Graph.ofRecord <*>
      optional m "wait" none (nullable Wait.ofRecord)

/-- The members of the record before the graph, and the member after it. -/
def recordWith (e : Execution) (graph : String × Json) : Json :=
  .object [("id", .text e.id), ("workflow_id", .text e.workflowId), ("status", .text e.status.name),
    ("trigger_type", .text e.trigger.name), ("started_at", .text e.startedAt.recordText),
    ("completed_at", instantRecord e.completedAt), ("current_node_id", .ofText? e.nodeId),
    ("variables", .object e.vars), ("logs", .list (e.log.map LogEntry.toRecord)),
    ("error", .ofText? e.error), graph, ("wait", match e.wait with
      | some wait => wait.toRecord
      | none => .null)]

def toRecord (e : Execution) : Json := e.recordWith ("graph", e.graph.toRecord)

/-- The record with the version of its graph in the place of the graph. -/
def brief (e : Execution) : Json := e.recordWith ("graph_version", .int e.graph.version)

end Execution

end TriggerFlow
