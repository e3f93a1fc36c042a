import TriggerFlow.Proofs.Run.Acts
import Mathlib.Logic.Relation

/-!
# Records that make sense

A run goes from one state to another along the moves that are allowed. The members of a record that tell how far a
run has come agree with its state: it has an end when it has ended, it waits for something when it waits, and it names
what went wrong when it failed. Nothing is asked of the graph. A record that makes sense still does after each of the
few ways in which a run writes it.
-/

namespace TriggerFlow

/-- One state leads to another by moves that are allowed. -/
def Status.LeadsTo (a b : Status) : Prop := Relation.ReflTransGen (fun a b => Status.canBecome a b = true) a b

theorem Status.canEnd {a b : Status} (lives : a.isTerminal = false) (ends : b = .cancelled ∨ b = .failed) :
    a.canBecome b := by
  rcases ends with rfl | rfl <;> cases a <;> first | rfl | cases lives

namespace Status.LeadsTo

theorem refl (a : Status) : LeadsTo a a := Relation.ReflTransGen.refl

theorem of_move {a b : Status} (can : a.canBecome b) : LeadsTo a b := .single can

/-- A run that has not begun may come to any state. -/
theorem of_pending (b : Status) : LeadsTo .pending b := by
  have running : LeadsTo .pending .running := .of_move rfl
  cases b with
  | pending => exact .refl _
  | running => exact running
  | waiting => exact running.tail rfl
  | completed => exact running.tail rfl
  | failed => exact .of_move rfl
  | cancelled => exact .of_move rfl

/-- A run that lives may be cancelled, and it may fail. -/
theorem of_lives {a b : Status} (lives : a.isTerminal = false) (ends : b = .cancelled ∨ b = .failed) :
    LeadsTo a b := .of_move (canEnd lives ends)

/-- No move leads back to a run that has not begun. -/
theorem eq_pending {a : Status} (path : LeadsTo a .pending) : a = .pending := by
  rcases Relation.ReflTransGen.cases_tail path with same | ⟨b, -, move⟩
  · exact same.symm
  · cases b <;> cases move

end Status.LeadsTo

/-- What the two kinds of actions that park a run wait for. -/
inductive Wait.Suits : ActionKind → Wait → Prop
  | delay (time : Instant) : Suits .delay ⟨some time, none, none⟩
  | condition (expression : String) (deadline : Option Instant) :
    Suits .waitCondition ⟨none, some expression, deadline⟩

namespace Execution

/-- The node that a run is at. -/
def At (e : Execution) (node : Node) : Prop := e.nodeId.bind e.graph.node? = some node

theorem lives_of_running {e : Execution} (status : e.status = .running) : e.isTerminal = false := by
  rw [isTerminal, status]
  rfl

theorem lives_of_waiting {e : Execution} (status : e.status = .waiting) : e.isTerminal = false := by
  rw [isTerminal, status]
  rfl

/-- The entry that an end node leaves in the log. -/
structure Closes (node : Node) (entry : LogEntry) : Prop where
  nodeId : entry.nodeId = node.id
  action : entry.action = if node.label = "" then "End" else node.label
  outcome : entry.outcome = .success
  message : entry.message = "Workflow completed"

/-- The entry that a request to cancel leaves in the log. -/
structure Calls (e : Execution) (entry : LogEntry) : Prop where
  nodeId : entry.nodeId = e.nodeId.getD ""
  action : entry.action = "Cancel"
  outcome : entry.outcome = .warning

/-- The members of a record agree with its state. -/
structure WellFormed (e : Execution) : Prop where
  ended : e.completedAt ≠ none ↔ e.isTerminal
  waits : e.wait ≠ none ↔ e.status = .waiting
  parked : e.status = .waiting →
    ∃ node a wait, e.At node ∧ node.task = .action a ∧ e.wait = some wait ∧ wait.Suits a.kind
  failed : e.error ≠ none ↔ e.status = .failed
  completed : e.status = .completed →
    ∃ node entry, e.At node ∧ node.task = .finish ∧ e.log.getLast? = some entry ∧ Closes node entry
  cancelled : e.status = .cancelled → ∃ entry, e.log.getLast? = some entry ∧ e.Calls entry

namespace WellFormed

variable {e : Execution}

/-- A run that has not begun, as it is created. -/
theorem fresh (pending : e.status = .pending) (ended : e.completedAt = none) (wait : e.wait = none)
    (error : e.error = none) : e.WellFormed := by
  constructor <;> simp [pending, ended, wait, error, isTerminal, Status.isTerminal]

theorem completedAt_eq (sound : e.WellFormed) (lives : e.isTerminal = false) : e.completedAt = none := by
  by_contra ended
  rw [sound.ended.mp ended] at lives
  cases lives

theorem error_eq (sound : e.WellFormed) (lives : e.isTerminal = false) : e.error = none := by
  by_contra failed
  rw [isTerminal, sound.failed.mp failed] at lives
  cases lives

theorem wait_eq (sound : e.WellFormed) (goes : e.status ≠ .waiting) : e.wait = none := by
  by_contra waits
  exact goes (sound.waits.mp waits)

/-- A run that goes on, with nothing that an ended or a waiting one has. -/
theorem running (status : e.status = .running) (ended : e.completedAt = none) (wait : e.wait = none)
    (error : e.error = none) : e.WellFormed := by
  constructor <;> simp [status, ended, wait, error, isTerminal, Status.isTerminal]

/-- A run that goes on has come to an end node, and its last entry tells of that. -/
theorem finished (sound : e.WellFormed) (status : e.status = .running) {node : Node} (at_ : e.At node)
    (task : node.task = .finish) {entry : LogEntry} (closes : Closes node entry) (time : Instant) :
    ({ Run.logged e entry with
        status := .completed, completedAt := some time, wait := none } : Execution).WellFormed := by
  have error : e.error = none := sound.error_eq (lives_of_running status)
  constructor
  case completed =>
    intro _
    exact ⟨node, entry, at_, task, List.getLast?_concat .., closes⟩
  all_goals simp [Run.logged, error, isTerminal, Status.isTerminal]

/-- An entry is logged before the run has ended. -/
theorem logged (sound : e.WellFormed) (lives : e.isTerminal = false) (entry : LogEntry) :
    (Run.logged e entry).WellFormed where
  ended := sound.ended
  waits := sound.waits
  parked := sound.parked
  failed := sound.failed
  completed := by
    intro status
    have same : e.status = .completed := status
    rw [isTerminal, same] at lives
    cases lives
  cancelled := by
    intro status
    have same : e.status = .cancelled := status
    rw [isTerminal, same] at lives
    cases lives

/-- The run has been cancelled where it stood. -/
theorem cancelledAt (error : e.error = none) (ended noted : Instant) :
    (Run.cancelledAt e ended noted).WellFormed := by
  constructor
  case cancelled =>
    intro _
    refine ⟨_, List.getLast?_concat .., ?_⟩
    exact ⟨rfl, rfl, rfl⟩
  all_goals simp [Run.cancelledAt, error, isTerminal, Status.isTerminal]

/-- The run has been ended by a failure of its own, whatever its record was like. -/
theorem abortedAt (e : Execution) (message : String) (ended noted : Instant) :
    (Run.abortedAt e message ended noted).WellFormed := by
  constructor <;> simp [Run.abortedAt, isTerminal, Status.isTerminal]

end WellFormed

end Execution

end TriggerFlow
