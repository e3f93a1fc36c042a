import TriggerFlow.Run.Drive
import TriggerFlow.Store

/-!
The world that workflows run in: the store, and a dispatcher with its state. Everything that is sent out
is kept in order.
-/

namespace TriggerFlow

/-- A world whose dispatcher has states `δ`. -/
structure World (δ : Type) where
  store : Store
  agent : δ
  /-- What has been sent out, the earliest first. -/
  sent : List Run.Sending

namespace World

variable {δ α : Type}

/-- A computation on the store. -/
def inStore (x : Act Store α) : Act (World δ) α := x.onPart World.store fun s w => { w with store := s }

/-- The clock moves on. -/
def pass (micros : Int) : Act Store Unit := fun s =>
  match s.now.later? micros with
  | some later => (.ok (), { s with now := later })
  | none => (.error (.span .beyondCalendar), s)

/-- The surroundings of the runs in a world. If a node is named, a log entry of that node asks for its
run to be cancelled. -/
def surroundings (d : Action.Dispatcher δ) (cancelAt : Option String) : Run.Surroundings (World δ) where
  now w := w.store.now
  load id := inStore (Store.execution? id)
  save e := inStore (Store.saveExecution e)
  append id entry := do
    inStore (Store.appendLog id entry)
    pure (cancelAt = some entry.nodeId)
  waiting := inStore (Store.executions ⟨none, some .waiting⟩)
  respond sending w :=
    let (effects, reply, agent) := d.respond sending.call w.store.fresh.id w.agent
    (effects, reply, { w with agent, sent := w.sent ++ [sending] })
  suffer
    | .pass micros => inStore (pass micros)
    | .forget id => inStore (Store.forgetExecution id)
    | .draw => do
      let _ ← inStore Store.draw
      pure ()
    | .cancel _ => pure ()

end World

end TriggerFlow
