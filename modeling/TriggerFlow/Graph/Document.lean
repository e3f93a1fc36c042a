import TriggerFlow.Graph.Record
import TriggerFlow.Json.Printer
import TriggerFlow.Json.Reader

/-!
The portable form of a graph. A node has an identifier, a type, a position and data; the data hold the
label and what the type needs. Members that are not asked for are ignored, and empty ones take their
defaults.
-/

namespace TriggerFlow.Graph

/-- Where in a document a fault lies. -/
inductive Part where
  | node (index : Nat)
  | edge (index : Nat)
  deriving DecidableEq, Repr

def Part.text : Part → String
  | .node index => "nodes[" ++ toString index ++ "]"
  | .edge index => "edges[" ++ toString index ++ "]"

/-- Why a document is no graph. -/
inductive DocumentFault where
  | notJson (fault : Json.Fault)
  | notAnObject
  | notLists
  | partNotAnObject (part : Part)
  | dataNotAnObject (index : Nat)
  | payloadNotAnObject (index : Nat) (key : String)
  | invalid (part : Part) (issues : List Issue)
  deriving DecidableEq, Repr

/-- The text of a fault. -/
def DocumentFault.message : DocumentFault → String
  | .notJson (.malformed _) => "Graph document is not valid JSON"
  | .notJson fault => fault.message
  | .notAnObject => "Graph document must be a JSON object"
  | .notLists => "'nodes' and 'edges' must be lists"
  | .partNotAnObject part => part.text ++ " must be an object"
  | .dataNotAnObject index => (Part.node index).text ++ ".data must be an object"
  | .payloadNotAnObject index key => (Part.node index).text ++ ".data." ++ key ++ " must be an object"
  | .invalid part _ => part.text ++ " is invalid"

/-- A member that may be left out or empty, and else has to be an object. -/
def objectMember (m : Members) (key : String) (fault : DocumentFault) :
    Except DocumentFault Members :=
  match (Json.member m key).orElse (.object []) with
  | .object inner => .ok inner
  | _ => .error fault

/-- The record of a node's task, from the data of its document. -/
def taskRecord (index : Nat) (kind : Json) (data : Members) : Except DocumentFault Members :=
  let payload (key : String) := objectMember data key (.payloadNotAnObject index key)
  match kind with
  | .text "trigger" => do
    let trigger ← payload "trigger"
    .ok [("trigger_type", (Json.member trigger "type").orElse (.text "manual")),
      ("config", (Json.member trigger "config").orElse (.object []))]
  | .text "action" => do
    let action ← payload "action"
    .ok [("action_type", Json.member action "type"),
      ("config", (Json.member action "config").orElse (.object [])),
      ("continue_on_error", .bool (Json.member action "continueOnError").isTruthy),
      ("timeout_seconds", Json.member action "timeoutSeconds")]
  | .text "condition" => do
    let condition ← payload "condition"
    .ok [("expression", Json.member condition "expression")]
  | _ => .ok []

/-- A node of a document. -/
def nodeOfDocument (index : Nat) : Json → Except DocumentFault Node
  | .object m => do
    let data ← objectMember m "data" (.dataNotAnObject index)
    let kind := Json.member m "type"
    let task ← taskRecord index kind data
    let record : Members :=
      [("id", Json.member m "id"), ("kind", kind),
        ("label", (Json.member data "label").orElse (.text "")),
        ("position", Json.member m "position")] ++ task
    match Node.ofRecord (.object record) with
    | .value node => .ok node
    | .issues found => .error (.invalid (.node index) found)
  | _ => .error (.partNotAnObject (.node index))

/-- An edge of a document. -/
def edgeOfDocument (index : Nat) : Json → Except DocumentFault Edge
  | .object m =>
    let record : Members :=
      [("id", Json.member m "id"), ("source", Json.member m "source"),
        ("target", Json.member m "target"), ("branch", Json.member m "sourceHandle")]
    match Edge.ofRecord (.object record) with
    | .value edge => .ok edge
    | .issues found => .error (.invalid (.edge index) found)
  | _ => .error (.partNotAnObject (.edge index))

/-- Reads the items of a list with their places; the first fault ends it. -/
def readEach {α : Type} (read : Nat → Json → Except DocumentFault α) :
    Nat → List Json → Except DocumentFault (List α)
  | _, [] => .ok []
  | index, item :: rest => do
    let first ← read index item
    let others ← readEach read (index + 1) rest
    .ok (first :: others)

/-- The graph that a document describes. -/
def ofDocument : Json → Except DocumentFault Graph
  | .object m =>
    match (Json.member m "nodes").orElse (.list []), (Json.member m "edges").orElse (.list []) with
    | .list nodes, .list edges => do
      let nodes ← readEach nodeOfDocument 0 nodes
      let edges ← readEach edgeOfDocument 0 edges
      .ok ⟨nodes, edges, 1⟩
    | _, _ => .error .notLists
  | _ => .error .notAnObject

/-- The graph that a text describes. -/
def ofDocumentText (text : String) : Except DocumentFault Graph :=
  match Json.read text with
  | .ok document => ofDocument document
  | .error fault => .error (.notJson fault)

/-- The data of a node's document that depend on its task. -/
def taskDocument : Task → Members
  | .trigger t =>
    [("trigger", .object [("type", .text t.kind.name), ("config", .object t.config)])]
  | .action a =>
    let limit : Members := match a.timeout with
      | some x => [("timeoutSeconds", .float x)]
      | none => []
    [("action", .object ([("type", .text a.kind.name), ("config", .object a.config),
      ("continueOnError", .bool a.continueOnError)] ++ limit))]
  | .condition expression => [("condition", .object [("expression", .text expression)])]
  | .finish => []

def nodeDocument (node : Node) : Json :=
  let position : Members := match node.position with
    | some p => [("position", p.toRecord)]
    | none => []
  .object ([("id", .text node.id), ("type", .text node.task.kindName)] ++ position ++
    [("data", .object (("label", .text node.label) :: taskDocument node.task))])

def edgeDocument (edge : Edge) : Json :=
  let handle : Members := match edge.branch with
    | some branch => [("sourceHandle", .text branch.name)]
    | none => []
  .object ([("id", .text edge.id), ("source", .text edge.source), ("target", .text edge.target)] ++
    handle)

/-- The document that describes a graph. -/
def toDocument (g : Graph) : Json :=
  .object [("nodes", .list (g.nodes.map nodeDocument)), ("edges", .list (g.edges.map edgeDocument))]

/-- The text of the document. -/
def toDocumentText (g : Graph) : String := g.toDocument.fileText

end TriggerFlow.Graph
