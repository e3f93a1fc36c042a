import TriggerFlow.Trigger.Launching
import TriggerFlow.World

/-!
The running system: the desk from which runs are driven, and the errands that wait to be carried out. A
run has at most one errand at a time. Launches and failures are counted in the record of the workflow.
-/

namespace TriggerFlow

/-- Something to be done for a run. -/
inductive Errand where
  | start (e : Execution)
  | resume (e : Execution) (time : Option Instant) (context : Members)
  deriving DecidableEq, Repr

/-- The run that an errand is for. -/
def Errand.runId : Errand → String
  | .start e => e.id
  | .resume e _ _ => e.id

/-- The running system, over a dispatcher with states `δ`. -/
structure Automation (δ : Type) where
  desk : Run.Desk (World δ)
  /-- The errands that wait, the earliest first. -/
  queue : List Errand

/-- What a system is set up with. -/
structure Setup (δ : Type) where
  dispatcher : Action.Dispatcher δ
  limits : Run.Limits
  /-- Whether errands are carried out as soon as they come in. -/
  eager : Bool

/-- A new run of a workflow. -/
def Execution.launched (fresh : Fresh) (w : Workflow) (kind : TriggerKind) (payload : Members) :
    Execution :=
  ⟨fresh.id, w.id, .pending, kind, fresh.now, none, none, (Context.seeded [w.vars, payload]).data,
    [], none, w.graph, none⟩

namespace Store

/-- Changes a workflow if it is still there. -/
def touchWorkflow (id : String) (change : Workflow → Workflow) : Act Store Unit := do
  match (← workflow? id) with
  | none => pure ()
  | some _ => do
    let _ ← updateWorkflow id change
    pure ()

/-- Counts a launch. -/
def countLaunch (id : String) (time : Instant) : Act Store Unit :=
  touchWorkflow id fun w => { w with
    executionCount := w.executionCount + 1, lastExecutedAt := some time }

/-- Counts a run that has failed. -/
def countFailure (e : Execution) : Act Store Unit :=
  if e.status = .failed then
    touchWorkflow e.workflowId fun w => { w with errorCount := w.errorCount + 1 }
  else pure ()

/-- Creates and counts a run. -/
def createRun (w : Workflow) (kind : TriggerKind) (payload : Members) : Act Store Execution := do
  let fresh ← draw
  let e := Execution.launched fresh w kind payload
  saveExecution e
  countLaunch w.id fresh.now
  pure e

end Store

namespace Automation

variable {δ α : Type} (setup : Setup δ)

/-- A computation at the desk. -/
def atDesk (x : Act (Run.Desk (World δ)) α) : Act (Automation δ) α :=
  x.onPart Automation.desk fun desk a => { a with desk }

/-- A computation on the store. -/
def inStore (x : Act Store α) : Act (Automation δ) α := atDesk (Run.Desk.inWorld (World.inStore x))

/-- The surroundings of the runs. -/
def surroundings : Run.Surroundings (World δ) := World.surroundings setup.dispatcher none

/-- Drives the run of an errand. -/
def drive : Errand → Act (Run.Desk (World δ)) Run.Driven
  | .start e => Run.start (surroundings setup) setup.limits e
  | .resume e time context => Run.resume (surroundings setup) setup.limits e time context

/-- Carries an errand out and counts its failure. A failure of the drive itself is nobody's answer. -/
def carryOut (errand : Errand) : Act (Automation δ) Unit := do
  let whole : Act (Automation δ) Unit := do
    let driven ← atDesk (drive setup errand)
    inStore (Store.countFailure driven.answer)
  whole.recover fun _ => pure ()

/-- Carries errands out one after the other. -/
def carryOutEach : List Errand → Act (Automation δ) Unit
  | [] => pure ()
  | errand :: rest => do
    carryOut setup errand
    Act.modify fun a => { a with queue := rest }
    carryOutEach rest

/-- Carries out all errands that wait. -/
def drain : Act (Automation δ) Unit := do
  let queue ← Act.ask queue
  carryOutEach setup queue

/-- Whether a run has an errand. -/
def inFlight (id : String) (a : Automation δ) : Bool := a.queue.any fun errand => errand.runId = id

/-- Whether no errand waits. -/
def isIdle (a : Automation δ) : Bool := a.queue.isEmpty

/-- Takes an errand in, unless its run has one already. -/
def submit (errand : Errand) : Act (Automation δ) Unit := do
  if (← Act.ask (inFlight errand.runId)) then pure ()
  else do
    Act.modify fun a => { a with queue := a.queue ++ [errand] }
    if setup.eager then drain setup

/-- Creates a run and takes in the errand to start it. -/
def launch (w : Workflow) (kind : TriggerKind) (payload : Members) : Act (Automation δ) Execution := do
  let e ← inStore (Store.createRun w kind payload)
  submit setup (.start e)
  pure e

/-- Launches out of the system. -/
def launcher : Launcher (Automation δ) where
  inStore := inStore
  launch := launch setup

end Automation

end TriggerFlow
