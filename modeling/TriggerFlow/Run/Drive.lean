import TriggerFlow.Run.Step

/-!
Drives. A drive takes a run from node to node until it ends or parks. It begins at the successor of the
trigger, or at the successor of the node where the run was parked, and it visits a bounded number of
nodes.
-/

namespace TriggerFlow.Run

variable {σ : Type} (s : Surroundings σ) (limits : Limits)

/-- The node that the run is at. -/
def currentNode : Act (Held σ) Node := do
  let e ← Held.current
  match e.nodeId.bind e.graph.node? with
  | some node => pure node
  | none => Act.fail (.run (.nodeMissing e.nodeId))

/-- Goes to the next node, if one is named, and stores the record. -/
def goOn (next : Option String) : Act (Held σ) Unit := do
  match next with
  | some id => Held.change fun e => { e with nodeId := some id }
  | none => pure ()
  persist s

/-- Takes up a request that came while the last node parked the run. -/
def settleParked : Act (Held σ) Unit := do
  let e ← Held.current
  if e.status = .waiting then
    if (← consumeCancel) then cancel s
  else pure ()

/-- Whether the run is to visit its node; a request to cancel it is taken up. -/
def mayVisit : Act (Held σ) Bool := do
  let e ← Held.current
  if e.status ≠ .running then
    settleParked s
    return false
  else if (← consumeCancel) then
    cancel s
    return false
  else return true

/-- Visits the node that the run is at. -/
def visit : Act (Held σ) Unit := do
  let node ← currentNode
  match node.task with
  | .action a => goOn s (← if a.kind.parks then park s node a else perform s limits node a)
  | .condition expression => goOn s (← decide s node expression)
  | .finish => finish s node
  | .trigger _ => Act.fail (.run (.triggerReached node.id))

/-- Visits nodes as long as the run is running and visits are left. -/
def loop : Nat → Act (Held σ) Unit
  | 0 => do
    if (← mayVisit s) then Act.fail (.run (.budgetExceeded limits.steps))
  | budget + 1 => do
    if (← mayVisit s) then
      visit s limits
      loop budget

/-- Whether one point in time comes before another. -/
def before (a b : Instant) : Except TimeFault Bool :=
  match a.order? b with
  | some order => .ok (order = .lt)
  | none => .error .mixedOrder

/-- Whether a point in time lies before one that may be absent; no point lies before an absent one. -/
def beforeSome (a : Instant) : Option Instant → Except TimeFault Bool
  | some b => before a b
  | none => .ok false

/-- How a look at a waiting run turns out. -/
inductive Look where
  | notDue
  /-- The wait is over; `condition` is one that holds. -/
  | met (condition : Option String)
  | failed (message : String)
  deriving DecidableEq, Repr

/-- Looks whether a wait is over at a point in time. A condition that cannot be evaluated makes it fail,
and so does a deadline that has passed. -/
def look (wait : Wait) (vars : Members) (time : Instant) : Except Failure Look := do
  if (← (beforeSome time wait.resumeAt).mapError .time) then return .notDue
  match wait.expression with
  | none => return .met none
  | some expression =>
    match Expr.holds expression vars with
    | .error fault => if fault.isExpression then return .failed fault.message else .error (.expression fault)
    | .ok true => return .met (some expression)
    | .ok false =>
      match wait.deadline with
      | none => return .notDue
      | some deadline =>
        if (← (before time deadline).mapError .time) then return .notDue
        return .failed ("Wait condition " ++ Text.quoted expression ++ " not met before deadline")

/-- Leaves the node where the run is parked and drives on. -/
def leave (next : String) : Act (Held σ) Unit := do
  Held.change fun e => { e with nodeId := some next }
  persist s
  loop s limits limits.steps.toNat

/-- Drives a waiting run on, if its wait is over. -/
def resumeBody (time : Instant) (context : Members) : Act (Held σ) Unit := do
  let e ← Held.current
  match e.nodeId.bind e.graph.node? with
  | some ⟨id, label, position, .action a⟩ =>
    let node : Node := ⟨id, label, position, .action a⟩
    if !a.kind.parks then Act.fail (.run (.parkedElsewhere e.nodeId))
    else match (← Act.lift (fun f => f) (look (e.wait.getD ⟨none, none, none⟩)
        (Ordered.overlay e.vars context) time)) with
      | .notDue => pure ()
      | .failed message => do
        become s .running
        Held.change fun e => { e with wait := none }
        match (← actionFailed s node a message) with
        | none => persist s
        | some next => leave s limits next
      | .met condition => do
        become s .running
        Held.change fun e => { e with wait := none }
        match condition with
        | some expression =>
          log s node.id (actionLabel node a) .success
            ("Wait condition " ++ Text.quoted expression ++ " met") none
        | none => pure ()
        let e ← Held.current
        leave s limits (← successor e.graph node.id)
  | _ => Act.fail (.run (.parkedElsewhere e.nodeId))

/-- The stored record of the run in hand, if it has left the state that it is expected in. -/
def movedOn (expected : Status) : Act (Held σ) (Option Execution) := do
  let e ← Held.current
  match (← Held.inWorld (s.load e.id)) with
  | some stored => pure (if stored.status = expected then none else some stored)
  | none => pure none

/-- Drives the run in hand, unless the stored record has moved on or somebody has asked to cancel it.
The answer is the stored record if that has moved on. -/
def unlessMoved (expected : Status) (drive : Act (Held σ) Unit) :
    Act (Held σ) (Option Execution) := do
  match (← movedOn s expected) with
  | some stored => return some stored
  | none =>
    if (← consumeCancel) then cancel s
    else drive
    return none

/-- Begins a run at the successor of its trigger. -/
def startBody : Act (Held σ) Unit := do
  become s .running
  let e ← Held.current
  match e.graph.trigger? with
  | none => Act.fail (.run .triggerMissing)
  | some (trigger, _) =>
    let first ← successor e.graph trigger.id
    Held.change fun e => { e with nodeId := some first }
    persist s
    loop s limits limits.steps.toNat

/-- What an entry point gives: the record that answers for the run, and the copy that was handed in, as
it is now. -/
structure Driven where
  answer : Execution
  copy : Execution

/-- Drives a claimed run: a failure ends it, and in the end the claim is given back. -/
def drive (e : Execution) (body : Act (Held σ) (Option Execution)) : Act (Desk σ) Driven := fun d =>
  match (body.recover fun failure => do
    abort s failure
    pure none) ⟨d, e⟩ with
  | (.ok moved, h) =>
    (.ok ⟨moved.getD h.record, h.record⟩, h.desk.released e.id h.record.isTerminal)
  | (.error failure, h) => (.error failure, h.desk.released e.id h.record.isTerminal)

/-- Starts a pending run. -/
def start (e : Execution) : Act (Desk σ) Driven := do
  if (← Desk.claim e.id) then drive s e (unlessMoved s .pending (startBody s limits))
  else Act.fail (.run (.alreadyDriven e.id))

/-- Resumes a waiting run if it is due. Any other run, and one that is being driven, stays as it is. -/
def resume (e : Execution) (time : Option Instant) (context : Members) : Act (Desk σ) Driven := do
  if e.status ≠ .waiting then pure ⟨e, e⟩
  else if (← Desk.claim e.id) then
    drive s e (unlessMoved s .waiting (do
      let now ← now s
      resumeBody s limits (time.getD now) context))
  else pure ⟨e, e⟩

/-- Resumes runs one after the other and gives those whose copies have moved. -/
def resumeEach (time : Option Instant) (context : Members) :
    List Execution → Act (Desk σ) (List Execution)
  | [] => pure []
  | e :: rest => do
    let driven ← resume s limits e time context
    let others ← resumeEach time context rest
    if driven.copy.status ≠ e.status ∨ driven.copy.nodeId ≠ e.nodeId then
      pure (driven.copy :: others)
    else pure others

/-- Resumes every stored run that waits and is due. -/
def resumeDue (time : Option Instant) (context : Members) : Act (Desk σ) (List Execution) := do
  let found ← Desk.inWorld s.waiting
  resumeEach s limits time context found

/-- Whether a waiting run is due. A condition that cannot be evaluated, or whose deadline has passed,
counts as due, so that the run is taken up and fails. -/
def isDue (e : Execution) (time : Instant) (context : Members) : Except Failure Bool :=
  match e.status, e.wait with
  | .waiting, some wait => do
    if (← (beforeSome time wait.resumeAt).mapError .time) then return false
    match wait.expression with
    | none => return true
    | some expression =>
      let late ← match wait.deadline with
        | some deadline => (fun b => !b) <$> (before time deadline).mapError .time
        | none => pure false
      if late then return true
      match Expr.holds expression (Ordered.overlay e.vars context) with
      | .ok b => return b
      | .error fault => if fault.isExpression then return true else .error (.expression fault)
  | _, _ => .ok false

end TriggerFlow.Run
