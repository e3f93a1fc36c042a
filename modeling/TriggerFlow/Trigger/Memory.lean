import TriggerFlow.Workflow

/-!
What the scheduler remembers of a workflow between two ticks: the minute in which its schedule last
fired and the last value of its condition.
-/

namespace TriggerFlow

structure TriggerMemory where
  lastMinute : Option Instant
  lastCondition : Bool
  deriving DecidableEq, Repr, Inhabited

namespace TriggerMemory

open Record

/-- Nothing has happened yet. -/
def blank : TriggerMemory := ⟨none, false⟩

/-- Two memories of the same point in time and the same value. -/
def same (a b : TriggerMemory) : Bool :=
  a.lastCondition = b.lastCondition &&
    match a.lastMinute, b.lastMinute with
    | none, none => true
    | some s, some t => s.same t
    | _, _ => false

def ofRecord : Json → Reading TriggerMemory :=
  ofObject fun m =>
    TriggerMemory.mk <$> optional m "last_fired_minute" none (nullable instant) <*>
      optional m "last_condition" false truth

def toRecord (memory : TriggerMemory) : Json :=
  .object [("last_fired_minute", Workflow.instantRecord memory.lastMinute),
    ("last_condition", .bool memory.lastCondition)]

end TriggerMemory

end TriggerFlow
