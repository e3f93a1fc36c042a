import TriggerFlow.Action.Reply
import TriggerFlow.Ordered

/-!
Dispatchers: they carry actions out. A dispatcher is a machine with a state of its own; for every call it
names what happens around it while the action runs, and what comes back. Two dispatchers are given: one
that only reports each action, and one whose replies are laid down in advance.
-/

namespace TriggerFlow.Action

/-- What may happen while an action runs. -/
inductive Effect where
  /-- Time passes, in microseconds. -/
  | pass (micros : Int)
  /-- Somebody asks for a run to be cancelled. -/
  | cancel (id : String)
  /-- The stored record of a run is lost. -/
  | forget (id : String)
  /-- The fresh identifier that was offered is used up. -/
  | draw
  deriving DecidableEq, Repr

/-- A dispatcher with states `δ`. It is offered a fresh identifier with every call. -/
structure Dispatcher (δ : Type) where
  respond : Call → String → δ → List Effect × Reply × δ

/-- The result of an action that is only reported. -/
def reported (kind : ActionKind) (reference : String) : Result :=
  let key := String.ofList (kind.name.toList.map fun c => if c = '-' then '_' else c) ++ "_id"
  ⟨[(key, .text reference), ("last_action", .text kind.name)], "Logged " ++ kind.name⟩

/-- The dispatcher that reports every action under a fresh identifier and sends nothing out. -/
def reporter (δ : Type) : Dispatcher δ where
  respond call fresh state := ([.draw], .result (reported call.kind fresh), state)

/-- One reply laid down in advance. -/
structure Plan where
  effects : List Effect
  reply : Reply
  deriving DecidableEq, Repr

/-- Plans by the name of an action or by its kind. The plans of a key are used one after the other; the
last one stays in use. -/
abbrev Script := Ordered (List Plan)

/-- The key of a call: the name in its settings if the script knows it, and else its kind. -/
def Script.keyOf (script : Script) (call : Call) : String :=
  match Json.member call.config "name" with
  | .text name => if Ordered.has script name then name else call.kind.name
  | _ => call.kind.name

/-- The dispatcher that follows a script. A call without a plan comes back empty. -/
def scripted : Dispatcher Script where
  respond call _ script :=
    let key := script.keyOf call
    match script.get? key with
    | some [plan] => (plan.effects, plan.reply, script)
    | some (plan :: rest) => (plan.effects, plan.reply, script.set key rest)
    | _ => ([], .data .null, script)

end TriggerFlow.Action
