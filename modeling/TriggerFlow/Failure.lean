import TriggerFlow.Action.Reply
import TriggerFlow.Execution
import TriggerFlow.Expr.Eval
import TriggerFlow.Graph.Defect
import TriggerFlow.Graph.Document
import TriggerFlow.Variables.Path

/-!
Why an operation fails. Every cause keeps what it is about; the wording is in one place.
-/

namespace TriggerFlow

/-- Why a run cannot go on as its graph says. -/
inductive RunFault where
  | alreadyDriven (id : String)
  | triggerMissing
  | budgetExceeded (limit : Int)
  | nodeMissing (id : Option String)
  | triggerReached (id : String)
  | notOneOutgoing (id : String) (count : Nat)
  | notOneBranch (id : String) (branch : Branch)
  | parkedElsewhere (id : Option String)
  deriving DecidableEq, Repr

/-- An identifier in quotes, or the word for its absence. -/
def quotedId? : Option String → String
  | some id => Text.quoted id
  | none => "None"

def RunFault.message : RunFault → String
  | .alreadyDriven id => "Execution " ++ id ++ " is already being driven"
  | .triggerMissing => "Graph snapshot has no single trigger node"
  | .budgetExceeded limit => "Step budget of " ++ toString limit ++ " exceeded"
  | .nodeMissing id => "Node " ++ quotedId? id ++ " is not in the graph snapshot"
  | .triggerReached id => "Trigger " ++ Text.quoted id ++ " reached mid-run"
  | .notOneOutgoing id count =>
    "Node " ++ Text.quoted id ++ " has " ++ toString count ++ " outgoing edges; expected one"
  | .notOneBranch id branch =>
    "Condition " ++ Text.quoted id ++ " has no single " ++ Text.quoted branch.name ++ " edge"
  | .parkedElsewhere id => "Waiting execution is parked on unexpected node " ++ quotedId? id

/-- A length of time, or a point in time so much later, that cannot be had. -/
inductive SpanFault where
  | length (fault : DurationFault)
  | beyondCalendar
  deriving DecidableEq, Repr

def SpanFault.message : SpanFault → String
  | .length .nan => "cannot convert float NaN to integer"
  | .length .infinite => "cannot convert float infinity to integer"
  | .length (.tooLong days) => "days=" ++ toString days ++ "; must have magnitude <= 999999999"
  | .length .beyondWord => "Python int too large to convert to C int"
  | .beyondCalendar => "date value out of range"

/-- Why an operation fails. -/
inductive Failure where
  | expression (fault : Expr.Fault)
  | path (fault : Path.Fault)
  | setting (fault : Action.SettingFault)
  | reply (fault : Action.ReplyFault)
  | span (fault : SpanFault)
  | time (fault : TimeFault)
  | action (message : String)
  | run (fault : RunFault)
  | illegalMove (message : String)
  | executionMissing (id : String)
  | workflowMissing (id : String)
  | workflowDisabled (id : String)
  | templateMissing (id : String)
  | defect (d : Defect)
  | document (fault : Graph.DocumentFault)
  | record (issues : List Issue)
  | json (fault : Json.Fault)
  | notEditable (fields : List String)
  /-- A text on the command line that assigns nothing. -/
  | assignment (text : String)
  /-- A store or a service out of reach. -/
  | unavailable (message : String)
  deriving DecidableEq, Repr

namespace Failure

/-- The text of a failure. -/
def message : Failure → String
  | .expression fault => fault.message
  | .path fault => fault.message
  | .setting fault => fault.message
  | .reply fault => fault.message
  | .span fault => fault.message
  | .time fault => fault.message
  | .action message => message
  | .run fault => fault.message
  | .illegalMove message => message
  | .executionMissing id => "Execution not found: " ++ id
  | .workflowMissing id => "Workflow not found: " ++ id
  | .workflowDisabled id => "Workflow is disabled: " ++ id
  | .templateMissing id => "Template not found: " ++ id
  | .defect d => d.message
  | .document fault => fault.message
  | .record issues => toString issues.length ++ " issues"
  | .json fault => fault.message
  | .notEditable fields => "Fields are not editable: " ++ ", ".intercalate fields
  | .assignment text => "Expected key=value, got " ++ Text.quoted text
  | .unavailable message => message

/-- Failures that blame a value. Settings of a node that fail so make the node fail, and no more. -/
def blamesValue : Failure → Bool
  | .expression _ | .path _ | .illegalMove _ | .defect _ | .document _ | .record _
  | .json _ | .notEditable _ | .assignment _ => true
  | .setting fault => fault ≠ .outOfRange
  | .span (.length .nan) => true
  | _ => false

end Failure

end TriggerFlow
