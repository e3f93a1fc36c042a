import TriggerFlow.Run.Desk
import TriggerFlow.Execution.Record
import TriggerFlow.Variables.Context

/-!
The single acts of a drive: moving the record, logging, sending actions out, parking, and the endings.
Every log entry is stored as soon as it is made, and the whole record after every node.
-/

namespace TriggerFlow.Run

variable {σ α : Type} (s : Surroundings σ)

/-- The time at the desk. -/
def now : Act (Held σ) Instant := Act.ask fun h => s.now h.desk.world

/-- Moves the record to another state. -/
def become (next : Status) : Act (Held σ) Unit := do
  let e ← Held.current
  let time ← now s
  match e.become? next time with
  | some next => Held.change fun _ => next
  | none => Act.fail (.illegalMove (e.illegalMove next))

/-- Logs an entry, in the record and in the store. -/
def log (nodeId action : String) (outcome : Outcome) (message : String) (data : Option Members) :
    Act (Held σ) Unit := do
  let time ← now s
  let entry : LogEntry := ⟨time, nodeId, action, outcome, message, data⟩
  Held.change fun e => { e with log := e.log ++ [entry] }
  let e ← Held.current
  if (← Held.inWorld (s.append e.id entry)) then Held.atDesk (Act.modify (Desk.flagged e.id))

/-- Stores the record as it stands. -/
def persist : Act (Held σ) Unit := do
  let e ← Held.current
  Held.inWorld (s.save e)

/-- Ends the run because somebody asked for it. -/
def cancel : Act (Held σ) Unit := do
  become s .cancelled
  let e ← Held.current
  log s (e.nodeId.getD "") "Cancel" .warning "Execution cancelled" none
  persist s

/-- Ends the run because of a failure of its own, if it has not ended already. A store that cannot take
the ending does not keep the run from ending. -/
def abort (failure : Failure) : Act (Held σ) Unit := do
  let e ← Held.current
  if e.isTerminal then pure ()
  else do
    Held.change fun e => { e with error := some failure.message }
    become s .failed
    let close : Act (Held σ) Unit := do
      log s (e.nodeId.getD "") "Engine" .error failure.message none
      persist s
    close.recover fun _ => pure ()

/-- Asks for a run to be cancelled. One that is being driven or has not begun stops at its next node;
one that waits is cancelled at once. Gives the record unless the run is being driven. -/
def requestCancel (id : String) : Act (Desk σ) (Option Execution) := do
  if (← Desk.claim id) then
    let answer : Act (Desk σ) (Option Execution) := do
      match (← Desk.inWorld (s.load id)) with
      | none => Act.fail (.executionMissing id)
      | some e =>
        match e.status with
        | .waiting => fun d =>
          match cancel s ⟨d, e⟩ with
          | (.ok _, h) => (.ok (some h.record), h.desk)
          | (.error failure, h) => (.error failure, h.desk)
        | .pending => do
          Act.modify (Desk.flagged id)
          pure (some e)
        | _ => pure (some e)
    answer.andThen (Desk.released id false)
  else do
    Act.modify (Desk.flagged id)
    pure none

/-- Takes up a request to cancel the run in hand. -/
def consumeCancel : Act (Held σ) Bool := do
  let e ← Held.current
  Held.atDesk (Desk.consumeCancel e.id)

/-- The one edge's target that leads on from a node. -/
def successor (g : Graph) (id : String) : Act (Held σ) String :=
  match g.outgoing id with
  | [edge] => pure edge.target
  | edges => Act.fail (.run (.notOneOutgoing id edges.length))

/-- What an action is called in the log. -/
def actionLabel (node : Node) (a : Action) : String := if node.label = "" then a.kind.name else node.label

/-- The settings of an action with their placeholders filled in. -/
def rendered (a : Action) : Act (Held σ) Members := do
  let e ← Held.current
  Act.lift .path (Template.renderMembers e.vars a.config)

/-- Something happens around the run. -/
def happen : Action.Effect → Act (Held σ) Unit
  | .cancel id => do
    let _ ← Held.atDesk (requestCancel s id)
    pure ()
  | effect => Held.inWorld (s.suffer effect)

/-- Things happen one after the other. -/
def happenAll : List Action.Effect → Act (Held σ) Unit
  | [] => pure ()
  | effect :: rest => do
    happen s effect
    happenAll rest

/-- Sends an action out and judges what comes back. -/
def send (sending : Sending) (limit : Option Binary64) :
    Act (Held σ) (Except String Action.Result) := do
  let (effects, reply) ← Held.inWorld (fun w =>
    let r := s.respond sending w
    (.ok (r.1, r.2.1), r.2.2))
  let settled := Action.settle sending.call.kind limit
  match (← (happenAll s effects).attempt) with
  | .ok () => pure (settled reply)
  | .error failure => pure (settled (.failure (.other "") failure.message))

/-- An action has failed: the run goes on if the action allows it, and else fails. The answer is the node
to go on with. -/
def actionFailed (node : Node) (a : Action) (message : String) : Act (Held σ) (Option String) := do
  log s node.id (actionLabel node a) .error message none
  let e ← Held.current
  if a.continueOnError then return some (← successor e.graph node.id)
  else do
    Held.change fun e => { e with error := some message }
    become s .failed
    return none

/-- Carries an action out. -/
def perform (limits : Limits) (node : Node) (a : Action) : Act (Held σ) (Option String) := do
  let config ← rendered a
  let e ← Held.current
  let sending : Sending := ⟨e.id, node.id, a.kind, config, e.vars⟩
  match (← send s sending (a.timeout.or limits.timeout)) with
  | .error message => actionFailed s node a message
  | .ok result => do
    Held.change fun e => { e with vars := Ordered.overlay e.vars result.output }
    let message := if result.message = "" then "Executed " ++ a.kind.name else result.message
    log s node.id (actionLabel node a) .success message
      (some [("config", .object config), ("output", .object result.output)])
    return some (← successor e.graph node.id)

/-- Which way a condition sends the run. -/
def decide (node : Node) (expression : String) : Act (Held σ) (Option String) := do
  let label := if node.label = "" then "Condition" else node.label
  let e ← Held.current
  match Expr.holds expression e.vars with
  | .error fault =>
    if fault.isExpression then do
      log s node.id label .error fault.message (some [("expression", .text expression)])
      Held.change fun e => { e with error := some fault.message }
      become s .failed
      return none
    else Act.fail (.expression fault)
  | .ok b => do
    let branch := Branch.ofBool b
    log s node.id label .success
      ("Condition " ++ Text.quoted expression ++ " evaluated to " ++ branch.name)
      (some [("expression", .text expression), ("result", .bool b)])
    match (e.graph.outgoing node.id).filter fun edge => edge.branch = some branch with
    | [edge] => return some edge.target
    | _ => Act.fail (.run (.notOneBranch node.id branch))

/-- The point in time so many seconds after another. -/
def after (time : Instant) (seconds : Binary64) : Except SpanFault Instant :=
  match Duration.ofSeconds seconds with
  | .error fault => .error (.length fault)
  | .ok micros =>
    match time.later? micros with
    | some later => .ok later
    | none => .error .beyondCalendar

/-- What comes of trying to park: the run waits, or it goes on at once. -/
inductive Parking where
  | waits (wait : Wait) (message : String)
  | goesOn (next : String)

/-- Works out what a parking action waits for. -/
def parking (node : Node) (a : Action) (time : Instant) (config : Members) : Act (Held σ) Parking := do
  if a.kind = .delay then
    let seconds ← Act.lift .setting (Action.delaySeconds config)
    let resumeAt ← Act.lift .span (after time seconds)
    return .waits ⟨some resumeAt, none, none⟩ ("Waiting until " ++ resumeAt.text)
  else
    let expression ← Act.lift .setting (Action.waitExpression config)
    let e ← Held.current
    if (← Act.lift .expression (Expr.holds expression e.vars)) then
      log s node.id (actionLabel node a) .success
        ("Wait condition " ++ Text.quoted expression ++ " already met") none
      return .goesOn (← successor e.graph node.id)
    else
      let limit ← Act.lift .setting (Action.waitLimit config)
      let deadline ← match limit with
        | some seconds => some <$> Act.lift .span (after time seconds)
        | none => pure none
      return .waits ⟨none, some expression, deadline⟩
        ("Waiting for condition " ++ Text.quoted expression)

/-- Parks the run at a delay or a wait, unless the wait is over already. Settings that are of no use make
the action fail. -/
def park (node : Node) (a : Action) : Act (Held σ) (Option String) := do
  let time ← now s
  let config ← rendered a
  match (← (parking s node a time config).attempt) with
  | .error failure =>
    if failure.blamesValue then actionFailed s node a failure.message else Act.fail failure
  | .ok (.goesOn next) => return some next
  | .ok (.waits wait message) => do
    log s node.id (actionLabel node a) .success message (some wait.present)
    Held.change fun e => { e with wait := some wait }
    become s .waiting
    return none

/-- The run has come to an end node. -/
def finish (node : Node) : Act (Held σ) Unit := do
  log s node.id (if node.label = "" then "End" else node.label) .success "Workflow completed" none
  become s .completed
  persist s

end TriggerFlow.Run
