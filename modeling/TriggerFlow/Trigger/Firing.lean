import TriggerFlow.Expr.Eval
import TriggerFlow.Schedule.Reader
import TriggerFlow.Trigger.Memory
import TriggerFlow.Failure

/-!
When a trigger fires. A schedule fires at most once in a minute that it matches, and a condition fires
when it holds after a look at which it did not. What cannot be read or evaluated does not fire and leaves
the memory as it was.
-/

namespace TriggerFlow.Trigger

/-- Whether a trigger fires at a look, and what is remembered of it. -/
structure Look where
  fires : Bool
  memory : TriggerMemory
  deriving DecidableEq, Repr

/-- A look at a schedule in a minute. -/
def lookAtSchedule (text : Option String) (minute : Instant) (memory : TriggerMemory) : Look :=
  match text.bind Schedule.read? with
  | none => ⟨false, memory⟩
  | some schedule =>
    if !schedule.isDue minute then ⟨false, memory⟩
    else if memory.lastMinute.any fun last => last.same minute then ⟨false, memory⟩
    else ⟨true, { memory with lastMinute := some minute }⟩

/-- A condition on variables: its value, or nothing if it is missing or cannot be evaluated. -/
def value? (expression : Option String) (vars : Members) : Except Failure (Option Bool) :=
  match expression with
  | none => .ok none
  | some text =>
    match Expr.holds text vars with
    | .ok b => .ok (some b)
    | .error fault => if fault.isExpression then .ok none else .error (.expression fault)

/-- What comes of the value of a condition: it fires on the edge from false to true. -/
def lookAtValue (memory : TriggerMemory) : Option Bool → Look
  | none => ⟨false, memory⟩
  | some b => ⟨b && !memory.lastCondition, { memory with lastCondition := b }⟩

/-- A look at the trigger of a workflow at a tick in a minute. Triggers that do not depend on time and
context stay quiet. -/
def look (minute : Instant) (context vars : Members) (t : Trigger) (memory : TriggerMemory) :
    Except Failure Look :=
  match t.kind with
  | .schedule => .ok (lookAtSchedule t.schedule? minute memory)
  | .conditional =>
    (value? t.expression? (Ordered.overlay vars context)).map (lookAtValue memory)
  | _ => .ok ⟨false, memory⟩

/-- Whether a trigger listens to an event. -/
def listens (t : Trigger) (event : String) : Bool := t.kind = .event && t.event? = some event

/-- Whether a trigger lets the payload of an event pass. A filter that cannot be evaluated lets nothing
pass. -/
def accepts (t : Trigger) (payload : Members) : Except Failure Bool :=
  match t.filter? with
  | none => .ok true
  | some text => (value? (some text) payload).map fun v => v.getD false

end TriggerFlow.Trigger
