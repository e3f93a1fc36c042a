import TriggerFlow.Action.Setting
import TriggerFlow.Expr.Check
import TriggerFlow.Graph.Basic
import TriggerFlow.Text.Quoted

/-!
What can be wrong with a graph, and how it is reported. A defect names the node or the edge it is about.
-/

namespace TriggerFlow

/-- What is wrong with the settings of a node. -/
inductive ConfigFault where
  | scheduleMissing
  | scheduleInvalid (schedule : String)
  | eventMissing
  | expressionMissing
  | expression (refusal : Expr.Refusal)
  | setting (fault : Action.SettingFault)
  deriving DecidableEq, Repr

/-- The text of a fault. -/
def ConfigFault.message : ConfigFault → String
  | .scheduleMissing => "time-based trigger requires a 'schedule'"
  | .scheduleInvalid schedule => "invalid cron schedule " ++ Text.quoted schedule
  | .eventMissing => "event-based trigger requires an 'event'"
  | .expressionMissing => "conditional trigger requires an 'expression'"
  | .expression refusal => refusal.message
  | .setting fault => fault.message

/-- What is wrong with a graph. -/
inductive Defect where
  | duplicateNode (id : String) (count : Nat)
  | triggerMissing
  | severalTriggers (ids : List String)
  | triggerEntered (id : String)
  | dangling (edge : String) (missing : List String)
  | branchMissing (node : String)
  | branchUnlabelled (node : String)
  | endContinued (node : String)
  | deadEnd (node : String)
  | severalOutgoing (node : String) (count : Nat)
  | labelledEdge (edge node : String)
  | cycle (source target : String)
  | unreachable (node : String)
  | misconfigured (node : String) (fault : ConfigFault)
  deriving DecidableEq, Repr

namespace Defect

/-- The name of the kind of a defect in reports. -/
def kindName : Defect → String
  | .duplicateNode .. => "DuplicateNode"
  | .triggerMissing => "MissingTrigger"
  | .severalTriggers _ => "MultipleTriggers"
  | .triggerEntered _ => "TriggerHasIncomingEdges"
  | .dangling .. => "DanglingEdge"
  | .branchMissing _ => "IncompleteBranch"
  | .branchUnlabelled _ | .endContinued _ | .severalOutgoing .. | .labelledEdge .. => "AmbiguousEdge"
  | .deadEnd _ => "DeadEnd"
  | .cycle .. => "CyclicGraph"
  | .unreachable _ => "UnreachableNode"
  | .misconfigured .. => "InvalidConfiguration"

/-- The text of a defect. -/
def message : Defect → String
  | .duplicateNode id count => "Node id " ++ Text.quoted id ++ " is used " ++ toString count ++ " times"
  | .triggerMissing => "Workflow has no trigger node"
  | .severalTriggers ids =>
    "Workflow has " ++ toString ids.length ++ " trigger nodes: " ++ ", ".intercalate ids
  | .triggerEntered id => "Trigger " ++ Text.quoted id ++ " must not have incoming edges"
  | .dangling edge missing =>
    "Edge " ++ Text.quoted edge ++ " references unknown node(s): " ++ ", ".intercalate missing
  | .branchMissing node =>
    "Condition " ++ Text.quoted node ++ " needs exactly one 'true' and one 'false' edge"
  | .branchUnlabelled node => "Condition " ++ Text.quoted node ++ " has edges without a branch label"
  | .endContinued node => "End node " ++ Text.quoted node ++ " has outgoing edges"
  | .deadEnd node => "Node " ++ Text.quoted node ++ " has no outgoing edge"
  | .severalOutgoing node count =>
    "Node " ++ Text.quoted node ++ " has " ++ toString count ++ " outgoing edges; expected one"
  | .labelledEdge edge node =>
    "Edge " ++ Text.quoted edge ++ " has a branch label but " ++ Text.quoted node ++
      " is not a condition"
  | .cycle source target =>
    "Cycle detected through edge " ++ Text.quoted source ++ " -> " ++ Text.quoted target
  | .unreachable node => "Node " ++ Text.quoted node ++ " is not reachable from the trigger"
  | .misconfigured node fault => "Node " ++ Text.quoted node ++ ": " ++ fault.message

/-- The node a defect is about. -/
def nodeId? : Defect → Option String
  | .duplicateNode id _ | .triggerEntered id | .branchMissing id | .branchUnlabelled id
  | .endContinued id | .deadEnd id | .severalOutgoing id _ | .unreachable id
  | .misconfigured id _ => some id
  | .cycle _ target => some target
  | _ => none

/-- The edge a defect is about. -/
def edgeId? : Defect → Option String
  | .dangling edge _ | .labelledEdge edge _ => some edge
  | _ => none

/-- A defect in a report. -/
def report (d : Defect) : Json :=
  let named (key : String) (id? : Option String) : Members := match id? with
    | some id => [(key, .text id)]
    | none => []
  .object ([("kind", .text d.kindName), ("message", .text d.message)] ++ named "nodeId" d.nodeId? ++
    named "edgeId" d.edgeId?)

end Defect

end TriggerFlow
