import TriggerFlow.Graph.Check
import TriggerFlow.Store
import TriggerFlow.Trigger.Firing

/-!
From triggers to launches: ticks of the clock, events and requests by hand. A workflow whose launch fails
is passed over and keeps nobody from being launched.
-/

namespace TriggerFlow

/-- Launches of workflows out of states `S` that hold a store. -/
structure Launcher (S : Type) where
  inStore : {α : Type} → Act Store α → Act S α
  launch : Workflow → TriggerKind → Members → Act S Execution

namespace Launcher

variable {S : Type} (l : Launcher S)

/-- The enabled workflows that have exactly one trigger, in the order of the store. -/
def listening : Act Store (List (Workflow × Trigger)) := do
  let found ← Store.workflows
  pure ((found.filter fun w => w.enabled).filterMap fun w => w.trigger?.map fun t => (w, t.2))

/-- Looks at one trigger after the other, and gives the workflows that fire and what is remembered. -/
def review (minute : Instant) (context : Members) :
    List (Workflow × Trigger) → Ordered TriggerMemory →
      Except Failure (List Workflow × Ordered TriggerMemory)
  | [], memories => .ok ([], memories)
  | (w, t) :: rest, memories => do
    let memory := (memories.get? w.id).getD .blank
    let found ← t.look minute context w.vars memory
    let (others, memories) ← review minute context rest (memories.set w.id found.memory)
    return (if found.fires then w :: others else others, memories)

/-- Two lots of memories hold the same. -/
def sameMemories (a b : Ordered TriggerMemory) : Bool :=
  a.length = b.length && a.all fun (id, memory) => (b.get? id).any memory.same

/-- The workflows that fire at a point in time. Memories of workflows that no longer listen are dropped,
and so are those that hold nothing. -/
def due (now : Instant) (context : Members) : Act Store (List (Workflow × TriggerKind)) := do
  let found ← listening
  let stored ← Store.triggers
  let live := stored.filter fun (id, _) => found.any fun (w, _) => w.id = id
  let (firing, memories) ← Act.lift (fun f => f) (review now.startOfMinute context found live)
  let kept := memories.filter fun (_, memory) => !memory.same .blank
  if !sameMemories kept stored then Store.saveTriggers kept
  pure (firing.filterMap fun w => w.trigger?.map fun t => (w, t.2.kind))

/-- Launches workflows without a payload and gives the runs that came to be. -/
def launchEach : List (Workflow × TriggerKind) → Act S (List Execution)
  | [] => pure []
  | (w, kind) :: rest => do
    let launched ← (l.launch w kind []).attempt
    let others ← launchEach rest
    pure (launched.toOption.toList ++ others)

/-- A tick of the clock: launches what is due. -/
def tick (now : Instant) (context : Members) : Act S (List Execution) := do
  let firing ← l.inStore (due now context)
  launchEach l firing

/-- Launches the workflows that let the payload pass. -/
def deliverEach (payload : Members) : List (Workflow × Trigger) → Act S (List Execution)
  | [] => pure []
  | (w, t) :: rest => do
    let passes ← Act.lift (fun f => f) (t.accepts payload)
    let launched ← if passes then Except.toOption <$> (l.launch w .event payload).attempt
      else pure none
    let others ← deliverEach payload rest
    pure (launched.toList ++ others)

/-- Delivers an event to every workflow that listens to it. -/
def deliver (event : String) (payload : Members) : Act S (List Execution) := do
  let found ← l.inStore listening
  deliverEach l payload (found.filter fun (_, t) => t.listens event)

/-- Fails with the first defect of a graph. -/
def requireSound (g : Graph) : Act S Unit := do
  match (← Act.lift .setting g.defects) with
  | [] => pure ()
  | d :: _ => Act.fail (.defect d)

/-- Launches a workflow because somebody asked for it, whatever its trigger. -/
def invoke (id : String) (payload : Members) : Act S Execution := do
  match (← l.inStore (Store.workflow? id)) with
  | none => Act.fail (.workflowMissing id)
  | some w =>
    if !w.enabled then Act.fail (.workflowDisabled id)
    else do
      requireSound w.graph
      l.launch w .manual payload

end Launcher

end TriggerFlow
