import TriggerFlow.Graph.Basic
import TriggerFlow.Json.Printer

/-!
What comes back when an action is sent out, and how it is judged. Whatever happens, the outcome is a
result or the text of a failure.
-/

namespace TriggerFlow.Action

/-- An action as it is sent out: its kind, its settings with the placeholders filled in, and the
variables of the run. -/
structure Call where
  kind : ActionKind
  config : Members
  vars : Members
  deriving DecidableEq, Repr

/-- What an action that went well gives to the run. -/
structure Result where
  output : Members
  message : String
  deriving DecidableEq, Repr

/-- The kinds of failure that an action can end in. -/
inductive FailureKind where
  /-- The action reports that it failed. -/
  | reported
  /-- The action reports that it ran out of time, by the name it has for that. -/
  | outOfTime (name : String := "TimeoutError")
  | other (name : String)
  deriving DecidableEq, Repr

/-- What comes back. -/
inductive Reply where
  | result (r : Result)
  /-- Plain data in the place of a result. -/
  | data (datum : Json)
  /-- Neither a result nor data, but something of another kind. -/
  | foreign (kind : String)
  | failure (kind : FailureKind) (message : String)
  /-- Nothing has come back when the time is up. -/
  | silence
  deriving DecidableEq, Repr

/-- Why plain data are no result. -/
inductive ReplyFault where
  | notAnObject (kind : String)
  | outputNotAnObject
  | messageTooLong
  deriving DecidableEq, Repr

def ReplyFault.message : ReplyFault → String
  | .notAnObject kind => "'" ++ kind ++ "' object has no attribute 'get'"
  | .outputNotAnObject => "Dispatcher returned a non-mapping output"
  | .messageTooLong => Json.notWritable

/-- The result that plain data stand for: null for an empty one, and else an object with an output and
a message. -/
def Result.ofData : Json → Except ReplyFault Result
  | .null => .ok ⟨[], ""⟩
  | .object m =>
    match (Ordered.get? m "output").getD (.object []) with
    | .object output =>
      let message := (Json.member m "message").orElse (.text "")
      if message.isWritable then .ok ⟨output, message.display⟩ else .error .messageTooLong
    | _ => .error .outputNotAnObject
  | datum => .error (.notAnObject datum.kindName)

/-- The name of a kind of failure, which stands for an empty message. -/
def FailureKind.name : FailureKind → String
  | .reported => "ActionExecutionError"
  | .outOfTime name => name
  | .other name => name

/-- The text of a failure. A reported failure keeps its text even if it is empty. -/
def failureText (kind : FailureKind) (message : String) : String :=
  if kind = .reported ∨ message ≠ "" then message else kind.name

/-- The text of a failure by time. -/
def lateText (kind : ActionKind) (limit : Binary64) : String :=
  "Action " ++ kind.name ++ " timed out after " ++ Decimal.compactText limit ++ "s"

/-- Judges a reply that was waited for without a limit. -/
def settleDirect : Reply → Except String Result
  | .result r => .ok r
  | .data datum => (Result.ofData datum).mapError ReplyFault.message
  | .foreign kind => .error (ReplyFault.notAnObject kind).message
  | .failure kind message => .error (failureText kind message)
  | .silence => .error (failureText .outOfTime "")

/-- Judges a reply that was waited for up to a limit. A failure by time of the action's own looks the
same as silence. -/
def settleWithin (kind : ActionKind) (limit : Binary64) : Reply → Except String Result
  | .silence => .error (lateText kind limit)
  | .failure (.outOfTime _) _ => .error (lateText kind limit)
  | reply => settleDirect reply

/-- Judges a reply; `limit` is in force if there is one. -/
def settle (kind : ActionKind) (limit : Option Binary64) (reply : Reply) : Except String Result :=
  match limit with
  | some limit => settleWithin kind limit reply
  | none => settleDirect reply

end TriggerFlow.Action
