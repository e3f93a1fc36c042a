import TriggerFlow.Proofs.World

/-!
# Sending with a limit and without

What comes back of an action is judged after the fact, and the limit plays no part in what happens around the run. So
an action that comes back in time is judged alike with a limit and without, with one exception: a failure by time of the
action's own is told in the words of the limit.
-/

namespace TriggerFlow

namespace Action

/-- Whether a reply tells that the time has run out, be it the time of the limit or one that the action keeps itself. -/
def Reply.ranOut : Reply → Bool
  | .silence => true
  | .failure (.outOfTime _) _ => true
  | _ => false

theorem settle_some (kind : ActionKind) (limit : Binary64) (reply : Reply) : settle kind (some limit) reply =
    if reply.ranOut then .error (lateText kind limit) else settle kind none reply := by
  cases reply with
  | failure failure message => cases failure <;> rfl
  | result | data | foreign | silence => rfl

/-- A reply in time is judged alike but for a failure by time that is told in other words than those of the limit. -/
theorem settle_alike_iff (kind : ActionKind) (limit : Binary64) {reply : Reply} (inTime : reply ≠ .silence) :
    settle kind (some limit) reply = settle kind none reply ↔
      ∀ name message, reply = .failure (.outOfTime name) message →
        failureText (.outOfTime name) message = lateText kind limit := by
  rw [settle_some]
  -- the limit decides nothing but what a reply of running out of time is told as
  cases out : reply.ranOut with
  | false =>
    simp only [Bool.false_eq_true, if_false, true_iff]
    rintro name message rfl
    cases out
  | true =>
    rw [if_pos rfl]
    cases reply with
    | silence => exact absurd rfl inTime
    | result | data | foreign => cases out
    | failure failure message =>
      cases failure with
      | reported | other => cases out
      | outOfTime name =>
        simp [settle, settleDirect, eq_comm]

end Action

namespace Run

variable {σ : Type} (s : Surroundings σ)

/-- What comes back of an action that is sent out: the reply, unless something that happens meanwhile fails. -/
def comesBack (sending : Sending) : Act (Held σ) Action.Reply := do
  let (effects, reply) ← Held.inWorld (fun w =>
    let r := s.respond sending w
    (.ok (r.1, r.2.1), r.2.2))
  match (← (happenAll s effects).attempt) with
  | .ok () => pure reply
  | .error failure => pure (.failure (.other "") failure.message)

/-- An action is sent out in the same way whatever the limit is, and what comes back is judged at the end. -/
theorem send_eq_map (sending : Sending) (limit : Option Binary64) :
    send s sending limit = Action.settle sending.call.kind limit <$> comesBack s sending := by
  rw [send, comesBack, map_bind]
  refine bind_congr fun back => ?_
  rw [map_bind]
  refine bind_congr fun ended => ?_
  cases ended <;> rfl

/-- Something comes back whatever fails meanwhile. -/
theorem comesBack_ok (sending : Sending) (h : Held σ) :
    ∃ reply after, comesBack s sending h = (.ok reply, after) := by
  have answers : (comesBack s sending).Ensures h (fun _ _ => True) fun _ _ => False := by
    refine Act.ensures_bind.mpr (ensures_inWorld.mpr (Act.ensures_bind.mpr (Act.ensures_attempt.mpr ?_)))
    exact (Act.Ensures.run _ _).mono (fun _ _ _ => trivial) fun _ _ _ => trivial
  rcases run : comesBack s sending h with ⟨_ | reply, after⟩
  · exact (answers.of_error run).elim
  · exact ⟨reply, after, rfl⟩

end Run

namespace Trial

open Run

/-- A run in hand whose mails report that they have run out of a time of their own. -/
def impatient : Held (World Action.Script) :=
  ⟨⟨[], [], ⟨⟨nine, 0, [], .memory ⟨[], [], []⟩⟩, [("send-email", [⟨[], .failure .outOfTime "slow"⟩])], []⟩⟩,
    created Graph.pausing⟩

/-- Such a mail. -/
def impatientMail : Sending := ⟨"run", "mail", ⟨.sendEmail, [], []⟩⟩

end Trial

end TriggerFlow
