import TriggerFlow.Act
import TriggerFlow.Action.Dispatcher

/-!
What runs work with. The surroundings keep the clock, the stored records and the dispatcher; the desk
adds which runs are being driven and which of them somebody has asked to cancel.
-/

namespace TriggerFlow.Run

/-- An action on its way out, with the run and the node that it belongs to. -/
structure Sending where
  runId : String
  nodeId : String
  call : Action.Call
  deriving DecidableEq, Repr

/-- The surroundings of runs, with states `σ`. Every operation may fail. -/
structure Surroundings (σ : Type) where
  now : σ → Instant
  /-- The stored record of a run. -/
  load : String → Act σ (Option Execution)
  save : Execution → Act σ Unit
  /-- Adds an entry to the log of a stored record; the answer tells whether the run is to be
  cancelled because of it. -/
  append : String → LogEntry → Act σ Bool
  /-- The stored records that are waiting. -/
  waiting : Act σ (List Execution)
  /-- Sends an action out. -/
  respond : Sending → σ → List Action.Effect × Action.Reply × σ
  /-- What else may happen while an action runs; requests to cancel are not among it. -/
  suffer : Action.Effect → Act σ Unit

/-- What bounds a run: the seconds for an action that has no limit of its own, and the number of nodes
that one drive may visit. -/
structure Limits where
  timeout : Option Binary64
  steps : Int
  deriving DecidableEq, Repr

/-- The desk from which runs are driven. -/
structure Desk (σ : Type) where
  active : List String
  cancels : List String
  world : σ

/-- A run in hand: its record as it is being changed, and the desk. -/
structure Held (σ : Type) where
  desk : Desk σ
  record : Execution

/-- Adds a member to a list without repetition. -/
def joined (id : String) (ids : List String) : List String := if ids.contains id then ids else id :: ids

/-- Removes a member. -/
def without (id : String) (ids : List String) : List String := ids.filter (· ≠ id)

namespace Desk

variable {σ α : Type}

/-- A computation on the surroundings. -/
def inWorld (x : Act σ α) : Act (Desk σ) α := x.onPart Desk.world fun w d => { d with world := w }

/-- Takes a run that nobody drives; the answer tells whether that was so. -/
def claim (id : String) : Act (Desk σ) Bool := fun d =>
  if d.active.contains id then (.ok false, d) else (.ok true, { d with active := id :: d.active })

/-- Gives a run back. One that has come to an end takes its requests to cancel along. -/
def released (id : String) (settled : Bool) (d : Desk σ) : Desk σ :=
  { d with active := without id d.active
           cancels := if settled then without id d.cancels else d.cancels }

/-- Notes that a run is to be cancelled. -/
def flagged (id : String) (d : Desk σ) : Desk σ := { d with cancels := joined id d.cancels }

/-- Takes up a request to cancel, if there is one. -/
def consumeCancel (id : String) : Act (Desk σ) Bool := fun d =>
  if d.cancels.contains id then (.ok true, { d with cancels := without id d.cancels })
  else (.ok false, d)

end Desk

namespace Held

variable {σ α : Type}

/-- A computation at the desk. -/
def atDesk (x : Act (Desk σ) α) : Act (Held σ) α := x.onPart Held.desk fun d h => { h with desk := d }

/-- A computation on the surroundings. -/
def inWorld (x : Act σ α) : Act (Held σ) α := atDesk (Desk.inWorld x)

def current : Act (Held σ) Execution := Act.ask Held.record

def change (f : Execution → Execution) : Act (Held σ) Unit :=
  Act.modify fun h => { h with record := f h.record }

end Held

end TriggerFlow.Run
