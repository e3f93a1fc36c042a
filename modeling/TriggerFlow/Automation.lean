import TriggerFlow.Automation.Definition

/-!
What the running system does on request: runs by hand, events, ticks of the clock, and cancellations.
-/

namespace TriggerFlow.Automation

variable {δ : Type} (setup : Setup δ)

/-- A system over a store at which nothing has happened yet. -/
def opened (store : Store) (agent : δ) : Automation δ := ⟨⟨[], [], ⟨store, agent, []⟩⟩, []⟩

/-- Starts a workflow by hand. -/
def run (id : String) (vars : Members) : Act (Automation δ) Execution :=
  (launcher setup).invoke id vars

/-- Delivers an event. -/
def emit (event : String) (payload : Members) : Act (Automation δ) (List Execution) :=
  (launcher setup).deliver event payload

/-- Takes in errands for the runs that are due and have none, and gives their identifiers. -/
def resumeEach (time : Instant) (context : Members) : List Execution → Act (Automation δ) (List String)
  | [] => pure []
  | e :: rest => do
    let due ← if (← Act.ask (inFlight e.id)) then pure false
      else Act.lift (fun f => f) (Run.isDue e time context)
    if due then submit setup (.resume e (some time) context)
    let others ← resumeEach time context rest
    pure (if due then e.id :: others else others)

/-- Takes in errands for the waiting runs that are due. -/
def resumeDue (time : Instant) (context : Members) : Act (Automation δ) (List String) := do
  let waiting ← inStore (Store.executions ⟨none, some .waiting⟩)
  resumeEach setup time context waiting

/-- What a tick has done: the runs that it started, and those that it resumed. -/
structure Ticked where
  started : List Execution
  resumed : List String
  deriving DecidableEq, Repr

/-- A tick of the clock, at a given time or now. -/
def tick (time : Option Instant) (context : Members) : Act (Automation δ) Ticked := do
  let now ← inStore (Act.ask Store.now)
  let time := time.getD now
  let started ← (launcher setup).tick time context
  let resumed ← resumeDue setup time context
  pure ⟨started, resumed⟩

/-- Asks for a run to be cancelled and gives its record. -/
def cancel (id : String) : Act (Automation δ) Execution := do
  let _ ← atDesk (Run.requestCancel (surroundings setup) id)
  inStore (Store.theExecution id)

/-- Takes in the errand to start a stored run; the answer tells whether it is carried out already. -/
def submitStored (id : String) : Act (Automation δ) Bool := do
  let e ← inStore (Store.theExecution id)
  submit setup (.start e)
  Act.ask fun a => !inFlight id a

end TriggerFlow.Automation
