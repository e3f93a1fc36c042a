import TriggerFlow.Graph.Basic
import TriggerFlow.Record.Leaf

/-!
Graphs as records. A node's record names its kind; the other members depend on that kind.
-/

namespace TriggerFlow

open Record

def Position.ofRecord : Json → Reading Position :=
  ofObject fun m =>
    Position.mk <$> optional m "x" (.zero false) number <*> optional m "y" (.zero false) number

def Position.toRecord (p : Position) : Json := .object [("x", .float p.x), ("y", .float p.y)]

namespace Node

/-- The members that nodes of all kinds have, with the task that the kind reads. -/
def ofMembers (m : Members) (task : Reading Task) : Reading Node :=
  Node.mk <$> required m "id" text <*> optional m "label" "" text <*>
    optional m "position" none (nullable Position.ofRecord) <*> task

def triggerTask (m : Members) : Reading Task :=
  (fun kind config => Task.trigger ⟨kind, config⟩) <$>
    optional m "trigger_type" .manual (choice .notAChoice TriggerKind.named?) <*>
    optional m "config" [] members

def actionTask (m : Members) : Reading Task :=
  (fun kind config goesOn timeout => Task.action ⟨kind, config, goesOn, timeout⟩) <$>
    required m "action_type" (choice .notAChoice ActionKind.named?) <*>
    optional m "config" [] members <*>
    optional m "continue_on_error" false truth <*>
    optional m "timeout_seconds" none (nullable positive)

def conditionTask (m : Members) : Reading Task :=
  Task.condition <$> required m "expression" text

/-- The reader of the tasks of a kind. -/
def taskReader? (kind : String) : Option (Members → Reading Task) :=
  if kind = "trigger" then some triggerTask
  else if kind = "action" then some actionTask
  else if kind = "condition" then some conditionTask
  else if kind = "end" then some fun _ => .value .finish
  else none

/-- A node of any kind; the issues of its members stand under the kind's name. -/
def ofRecord : Json → Reading Node
  | .object m =>
    match Ordered.get? m "kind" with
    | none => .complain .tagMissing
    | some (.text kind) =>
      match taskReader? kind with
      | some read => (ofMembers m (read m)).under kind
      | none => .complain .tagUnknown
    | some _ => .complain .tagUnknown
  | _ => .complain .taggedExpected

/-- A node of one kind, which its record may leave unnamed. -/
def ofRecordOfKind (kind : String) : Json → Reading Node :=
  ofObject fun m =>
    let named := optional m "kind" () (choice .notALiteral fun s => if s = kind then some () else none)
    let task := match taskReader? kind with
      | some read => read m
      | none => .complain .tagUnknown
    (fun (_ : Unit) node => node) <$> named <*> ofMembers m task

def toRecord (node : Node) : Json :=
  let front : Members :=
    [("id", .text node.id), ("label", .text node.label),
      ("position", match node.position with
        | some p => p.toRecord
        | none => .null),
      ("kind", .text node.task.kindName)]
  .object <| front ++ match node.task with
    | .trigger t => [("trigger_type", .text t.kind.name), ("config", .object t.config)]
    | .action a =>
      [("action_type", .text a.kind.name), ("config", .object a.config),
        ("continue_on_error", .bool a.continueOnError),
        ("timeout_seconds", match a.timeout with
          | some x => .float x
          | none => .null)]
    | .condition expression => [("expression", .text expression)]
    | .finish => []

end Node

def Edge.ofRecord : Json → Reading Edge :=
  ofObject fun m =>
    Edge.mk <$> required m "id" text <*> required m "source" text <*> required m "target" text <*>
      optional m "branch" none (nullable (choice .notALiteral Branch.named?))

def Edge.toRecord (edge : Edge) : Json :=
  .object [("id", .text edge.id), ("source", .text edge.source), ("target", .text edge.target),
    ("branch", .ofText? (edge.branch.map Branch.name))]

namespace Graph

def ofRecord : Json → Reading Graph :=
  ofObject fun m =>
    Graph.mk <$> optional m "nodes" [] (items Node.ofRecord) <*>
      optional m "edges" [] (items Edge.ofRecord) <*> optional m "version" 1 integer

def toRecord (g : Graph) : Json :=
  .object [("nodes", .list (g.nodes.map Node.toRecord)), ("edges", .list (g.edges.map Edge.toRecord)),
    ("version", .int g.version)]

end Graph

end TriggerFlow
