import TriggerFlow.Action.Dispatcher
import TriggerFlow.Json.Reader

/-!
Actions over HTTP: every action is posted to one address, and the reply is read from the body of the
response. Whatever goes wrong on the way is a failure that the action reports.
-/

namespace TriggerFlow.Action

/-- Where actions are posted. -/
structure Webhook where
  url : String
  token : String
  /-- Seconds that a response may take. -/
  timeout : Binary64
  deriving DecidableEq, Repr

/-- How a request goes: there is no response, or there is one with a status and a body. -/
inductive Exchange where
  | failed (message : String)
  | answered (status : Int) (body : String)
  deriving DecidableEq, Repr

namespace Webhook

/-- The text that refuses a blank address. -/
def urlRequired : String := "Webhook URL is required"

/-- A webhook at an address, which may not be blank. -/
def at? (url token : String) (timeout : Binary64) : Option Webhook :=
  if Text.isBlankText url then none else some ⟨Text.strip url, token, timeout⟩

/-- The headers of its requests. -/
def headers (w : Webhook) : Ordered String :=
  [("Accept", "application/json"), ("User-Agent", "workflow-automation")] ++
    if w.token = "" then [] else [("Authorization", "Bearer " ++ w.token)]

/-- What is posted for an action. -/
def body (call : Call) : Json :=
  .object [("actionType", .text call.kind.name), ("config", .object call.config),
    ("context", .object call.vars)]

/-- What stands for a missing or empty message. -/
def dispatched (kind : ActionKind) : String := "Dispatched " ++ kind.name

/-- The result in the body of a response. Only an object holds an output or a message. -/
def ofBody (kind : ActionKind) (datum : Json) : Except String Result :=
  let m := datum.object?.getD []
  match (Ordered.get? m "output").getD (.object []) with
  | .object output =>
    let message := Json.member m "message"
    .ok ⟨output, if message.isTruthy then message.display else dispatched kind⟩
  | _ => .error "Webhook 'output' must be an object"

/-- Judges an exchange. -/
def judge (kind : ActionKind) : Exchange → Except String Result
  | .failed message => .error ("Webhook request failed: " ++ message)
  | .answered status body =>
    if status < 200 ∨ 300 ≤ status then
      .error ("Webhook returned HTTP " ++ toString status ++ ": " ++ (body.take 200).toString)
    else if body = "" then .ok ⟨[], dispatched kind⟩
    else match Json.read? body with
      | some datum => ofBody kind datum
      | none => .error "Webhook returned a non-JSON body"

/-- The dispatcher that posts every action. -/
def dispatcher {δ : Type} (post : Json → δ → Exchange × δ) : Dispatcher δ where
  respond call _ state :=
    let (exchange, state) := post (body call) state
    ([], match judge call.kind exchange with
      | .ok r => .result r
      | .error message => .failure .reported message, state)

end Webhook

end TriggerFlow.Action
