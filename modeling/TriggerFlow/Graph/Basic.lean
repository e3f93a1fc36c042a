import TriggerFlow.Json
import TriggerFlow.Text.Trim

/-!
Workflow graphs: nodes of four kinds and directed edges between them. Nothing is assumed of a graph
here; identifiers may repeat and edges may lead nowhere.
-/

namespace TriggerFlow

/-- What starts a run. -/
inductive TriggerKind where
  | schedule | event | conditional | manual
  deriving DecidableEq, Repr, Inhabited

namespace TriggerKind

def name : TriggerKind → String
  | .schedule => "time-based"
  | .event => "event-based"
  | .conditional => "conditional"
  | .manual => "manual"

def all : List TriggerKind := [.schedule, .event, .conditional, .manual]

def named? (name : String) : Option TriggerKind := all.find? fun kind => kind.name = name

end TriggerKind

/-- What an action does. -/
inductive ActionKind where
  | sendEmail | sendNotification | createTask | createProject | updateStatus | assignToUser
  | createDocument | scheduleMeeting | waitCondition | delay
  deriving DecidableEq, Repr, Inhabited

namespace ActionKind

def name : ActionKind → String
  | .sendEmail => "send-email"
  | .sendNotification => "send-notification"
  | .createTask => "create-task"
  | .createProject => "create-project"
  | .updateStatus => "update-status"
  | .assignToUser => "assign-to-user"
  | .createDocument => "create-document"
  | .scheduleMeeting => "schedule-meeting"
  | .waitCondition => "wait-condition"
  | .delay => "delay"

def all : List ActionKind :=
  [.sendEmail, .sendNotification, .createTask, .createProject, .updateStatus, .assignToUser,
    .createDocument, .scheduleMeeting, .waitCondition, .delay]

def named? (name : String) : Option ActionKind := all.find? fun kind => kind.name = name

/-- The kinds that park a run instead of being sent out. -/
def parks : ActionKind → Bool
  | .waitCondition | .delay => true
  | _ => false

end ActionKind

/-- Where an editor draws a node. Nothing else depends on it. -/
structure Position where
  x : Binary64
  y : Binary64
  deriving DecidableEq, Repr, Inhabited

/-- What starts a workflow, with its settings. -/
structure Trigger where
  kind : TriggerKind
  config : Members
  deriving DecidableEq, Repr, Inhabited

namespace Trigger

/-- A setting that is a text with more than blanks in it, trimmed. -/
def setting? (trigger : Trigger) (key : String) : Option String :=
  match Json.member trigger.config key with
  | .text s => if Text.isBlankText s then none else some (Text.strip s)
  | _ => none

def schedule? (trigger : Trigger) : Option String := trigger.setting? "schedule"
def event? (trigger : Trigger) : Option String := trigger.setting? "event"
def filter? (trigger : Trigger) : Option String := trigger.setting? "filter"
def expression? (trigger : Trigger) : Option String := trigger.setting? "expression"

end Trigger

/-- What an action node does, and whether a run goes on when it fails. -/
structure Action where
  kind : ActionKind
  config : Members
  continueOnError : Bool
  /-- Seconds after which sending it out counts as failed. -/
  timeout : Option Binary64
  deriving DecidableEq, Repr, Inhabited

/-- The part of a node that depends on its kind. -/
inductive Task where
  | trigger (t : Trigger)
  | action (a : Action)
  | condition (expression : String)
  | finish
  deriving DecidableEq, Repr, Inhabited

/-- The name of the kind of a node. -/
def Task.kindName : Task → String
  | .trigger _ => "trigger"
  | .action _ => "action"
  | .condition _ => "condition"
  | .finish => "end"

structure Node where
  id : String
  label : String
  position : Option Position
  task : Task
  deriving DecidableEq, Repr, Inhabited

/-- The trigger of a trigger node. -/
def Node.trigger? (node : Node) : Option Trigger :=
  match node.task with
  | .trigger t => some t
  | _ => none

/-- Which outcome of a condition an edge follows. -/
inductive Branch where
  | yes | no
  deriving DecidableEq, Repr, Inhabited

namespace Branch

def name : Branch → String
  | .yes => "true"
  | .no => "false"

def named? (name : String) : Option Branch :=
  if name = "true" then some .yes else if name = "false" then some .no else none

def ofBool (b : Bool) : Branch := if b then .yes else .no

end Branch

structure Edge where
  id : String
  source : String
  target : String
  branch : Option Branch
  deriving DecidableEq, Repr, Inhabited

structure Graph where
  nodes : List Node
  edges : List Edge
  version : Int
  deriving DecidableEq, Repr, Inhabited

namespace Graph

/-- The first node with an identifier. -/
def node? (g : Graph) (id : String) : Option Node := g.nodes.find? fun node => node.id = id

/-- Whether some node has an identifier. -/
def hasNode (g : Graph) (id : String) : Bool := g.nodes.any fun node => node.id = id

/-- The trigger nodes with their triggers. -/
def triggers (g : Graph) : List (Node × Trigger) :=
  g.nodes.filterMap fun node => node.trigger?.map fun t => (node, t)

/-- The trigger node, if there is exactly one. -/
def trigger? (g : Graph) : Option (Node × Trigger) :=
  match g.triggers with
  | [t] => some t
  | _ => none

def outgoing (g : Graph) (id : String) : List Edge := g.edges.filter fun edge => edge.source = id

def incoming (g : Graph) (id : String) : List Edge := g.edges.filter fun edge => edge.target = id

end Graph

end TriggerFlow
