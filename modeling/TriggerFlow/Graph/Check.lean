import TriggerFlow.Graph.Defect
import TriggerFlow.Graph.Search
import TriggerFlow.Schedule.Reader
import TriggerFlow.Variables.Context

/-!
The checks of a graph. A graph without defects has one trigger from which every node can be reached, no
cycle, the edges that each kind of node needs, and settings that can be used. The defects come in a
fixed order; the first one is what a refused graph is refused for.
-/

namespace TriggerFlow.Graph

/-- Identifiers that several nodes share. -/
def duplicates (g : Graph) : List Defect :=
  g.nodeIds.filterMap fun id =>
    let count := g.nodes.countP fun node => node.id = id
    if 1 < count then some (.duplicateNode id count) else none

def triggerCount (g : Graph) : List Defect :=
  match g.triggers with
  | [] => [.triggerMissing]
  | [_] => []
  | several => [.severalTriggers (several.map fun t => t.1.id)]

def enteredTriggers (g : Graph) : List Defect :=
  g.triggers.filterMap fun t => if (g.incoming t.1.id).isEmpty then none else some (.triggerEntered t.1.id)

def danglingEdges (g : Graph) : List Defect :=
  g.edges.filterMap fun edge =>
    match [edge.source, edge.target].filter fun id => !g.hasNode id with
    | [] => none
    | missing => some (.dangling edge.id missing)

/-- What is wrong with the edges that leave a node. -/
def outgoingOf (g : Graph) (node : Node) : List Defect :=
  let edges := g.outgoing node.id
  let labelled (branch : Option Branch) : Nat := edges.countP fun edge => edge.branch = branch
  match node.task with
  | .condition _ =>
    (if labelled (some .yes) = 1 ∧ labelled (some .no) = 1 then [] else [.branchMissing node.id]) ++
      (if labelled none = 0 then [] else [.branchUnlabelled node.id])
  | .finish => if edges.isEmpty then [] else [.endContinued node.id]
  | .trigger _ | .action _ =>
    (match edges with
      | [] => [.deadEnd node.id]
      | [_] => []
      | several => [.severalOutgoing node.id several.length]) ++
      edges.filterMap fun edge => edge.branch.map fun _ => .labelledEdge edge.id node.id

def cycles (g : Graph) : List Defect :=
  match g.closingEdge? with
  | some (source, target) => [.cycle source target]
  | none => []

/-- Nodes that cannot be reached from the trigger; asked only where there is one trigger. -/
def unreachableNodes (g : Graph) : List Defect :=
  match g.trigger? with
  | some (trigger, _) =>
    let seen := g.reached trigger.id
    g.nodes.filterMap fun node => if seen.contains node.id then none else some (.unreachable node.id)
  | none => []

/-- Texts with placeholders take shape when they are used; they are not checked before. -/
def isTemplated : Json → Bool
  | .text s => Template.hasPlaceholder s
  | _ => false

def checkExpression (expression : String) : Except ConfigFault Unit :=
  match Expr.compile expression with
  | .ok _ => .ok ()
  | .error refusal => .error (.expression refusal)

def checkTrigger (t : Trigger) : Except ConfigFault Unit :=
  match t.kind with
  | .schedule =>
    match t.schedule? with
    | none => .error .scheduleMissing
    | some schedule => if Schedule.isValid schedule then .ok () else .error (.scheduleInvalid schedule)
  | .event =>
    match t.event? with
    | none => .error .eventMissing
    | some _ => match t.filter? with
      | some filter => checkExpression filter
      | none => .ok ()
  | .conditional =>
    match t.expression? with
    | none => .error .expressionMissing
    | some expression => checkExpression expression
  | .manual => .ok ()

def checkSetting {α : Type} (setting : Except Action.SettingFault α) : Except ConfigFault Unit :=
  match setting with
  | .ok _ => .ok ()
  | .error fault => .error (.setting fault)

def checkAction (a : Action) : Except ConfigFault Unit :=
  match a.kind with
  | .delay =>
    if isTemplated (Json.member a.config (Action.delayKey a.config)) then .ok ()
    else checkSetting (Action.delaySeconds a.config)
  | .waitCondition =>
    match Action.waitExpression a.config with
    | .error fault => .error (.setting fault)
    | .ok expression => do
      if isTemplated (.text expression) then .ok () else checkExpression expression
      if isTemplated (Json.member a.config "timeout") then .ok ()
      else checkSetting (Action.waitLimit a.config)
  | _ => .ok ()

/-- Whether the settings of a node can be used. -/
def checkNode (node : Node) : Except ConfigFault Unit :=
  match node.task with
  | .trigger t => checkTrigger t
  | .condition expression => checkExpression expression
  | .action a => checkAction a
  | .finish => .ok ()

/-- What is wrong with the settings of nodes. An integer beyond the range of numbers ends the check. -/
def misconfigured : List Node → Except Action.SettingFault (List Defect)
  | [] => .ok []
  | node :: rest =>
    match checkNode node with
    | .ok () => misconfigured rest
    | .error (.setting .outOfRange) => .error .outOfRange
    | .error fault => (misconfigured rest).map (.misconfigured node.id fault :: ·)

/-- The defects that do not depend on settings. -/
def structural (g : Graph) : List Defect :=
  g.duplicates ++ g.triggerCount ++ g.enteredTriggers ++ g.danglingEdges ++
    g.nodes.flatMap g.outgoingOf ++ g.cycles ++ g.unreachableNodes

/-- All defects in order. -/
def defects (g : Graph) : Except Action.SettingFault (List Defect) :=
  (misconfigured g.nodes).map (g.structural ++ ·)

end TriggerFlow.Graph
