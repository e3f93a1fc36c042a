import TriggerFlow.Workflow

/-!
Executions: one run of a frozen graph, with its variables, its log and what it waits for.
-/

namespace TriggerFlow

/-! ### States -/

/-- The states of a run. Completed, failed and cancelled runs never move again. -/
inductive Status where
  | pending | running | waiting | completed | failed | cancelled
  deriving DecidableEq, Repr, Inhabited

namespace Status

def name : Status → String
  | .pending => "pending"
  | .running => "running"
  | .waiting => "waiting"
  | .completed => "completed"
  | .failed => "failed"
  | .cancelled => "cancelled"

def all : List Status := [.pending, .running, .waiting, .completed, .failed, .cancelled]

def named? (name : String) : Option Status := all.find? fun status => status.name = name

def isTerminal : Status → Bool
  | .completed | .failed | .cancelled => true
  | _ => false

/-- The moves that are allowed. -/
def canBecome : Status → Status → Bool
  | .pending, .running | .pending, .failed | .pending, .cancelled => true
  | .running, .waiting | .running, .completed | .running, .failed | .running, .cancelled => true
  | .waiting, .running | .waiting, .failed | .waiting, .cancelled => true
  | _, _ => false

theorem canBecome_of_isTerminal {s t : Status} (h : s.isTerminal = true) : s.canBecome t = false := by
  cases s <;> cases t <;> simp_all [isTerminal, canBecome]

theorem named?_name (s : Status) : named? s.name = some s := by cases s <;> decide

end Status

/-! ### Records of runs -/

/-- How a logged step went. -/
inductive Outcome where
  | success | error | warning
  deriving DecidableEq, Repr, Inhabited

namespace Outcome

def name : Outcome → String
  | .success => "success"
  | .error => "error"
  | .warning => "warning"

def all : List Outcome := [.success, .error, .warning]

def named? (name : String) : Option Outcome := all.find? fun outcome => outcome.name = name

end Outcome

/-- An entry of the log of a run. -/
structure LogEntry where
  time : Instant
  nodeId : String
  action : String
  outcome : Outcome
  message : String
  data : Option Members
  deriving DecidableEq, Repr, Inhabited

/-- What a parked run waits for: a point in time, or a condition with an optional deadline. -/
structure Wait where
  resumeAt : Option Instant
  expression : Option String
  deadline : Option Instant
  deriving DecidableEq, Repr, Inhabited

structure Execution where
  id : String
  workflowId : String
  status : Status
  trigger : TriggerKind
  startedAt : Instant
  completedAt : Option Instant
  /-- The node that the run is at. -/
  nodeId : Option String
  vars : Members
  log : List LogEntry
  error : Option String
  graph : Graph
  wait : Option Wait
  deriving DecidableEq, Repr, Inhabited

/-- Readings with and without an offset cannot be subtracted. -/
inductive TimeFault where
  | mixedDifference
  | mixedOrder
  deriving DecidableEq, Repr

def TimeFault.message : TimeFault → String
  | .mixedDifference => "can't subtract offset-naive and offset-aware datetimes"
  | .mixedOrder => "can't compare offset-naive and offset-aware datetimes"

namespace Execution

def isTerminal (e : Execution) : Bool := e.status.isTerminal

/-- Seconds from start to end, for a run that has ended. -/
def duration? (e : Execution) : Except TimeFault (Option Binary64) :=
  match e.completedAt with
  | none => .ok none
  | some finish =>
    match finish.since? e.startedAt with
    | some micros => .ok (some (Duration.toSeconds micros))
    | none => .error .mixedDifference

/-- Moves the run to another state. A terminal state stamps the end and drops what was waited for. -/
def become? (e : Execution) (next : Status) (time : Instant) : Option Execution :=
  if e.status.canBecome next then
    if next.isTerminal then some { e with status := next, completedAt := some time, wait := none }
    else some { e with status := next }
  else none

/-- The text that refuses a move. -/
def illegalMove (e : Execution) (next : Status) : String :=
  "Illegal transition for execution " ++ e.id ++ ": " ++ e.status.name ++ " -> " ++ next.name

theorem become?_eq_none_of_isTerminal {e : Execution} (h : e.isTerminal = true) (next : Status)
    (time : Instant) : e.become? next time = none := by
  simp [become?, Status.canBecome_of_isTerminal h]

end Execution

end TriggerFlow
