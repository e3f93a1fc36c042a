import TriggerFlow.Proofs.Untouched
import TriggerFlow.Proofs.Run.Opening

/-!
# What is preserved around a drive

A property of the surroundings that every single operation on them preserves is preserved by whole drives, and by
requests to cancel.
-/

namespace TriggerFlow.Run

variable {σ : Type} {s : Surroundings σ} {P : σ → Prop}

/-- To move the record to another state leaves the surroundings alone. -/
theorem become_preserves (next : Status) : (become s next).Preserves fun h => P h.desk.world := by
  refine .bind (.ask _) fun e => .bind (.ask _) fun time => ?_
  split
  · exact .modify fun _ held => held
  · exact .fail _

namespace Surroundings.Preserve

variable (preserve : s.Preserve P)
include preserve

theorem log (nodeId action : String) (outcome : Outcome) (message : String) (data : Option Members) :
    (Run.log s nodeId action outcome message data).Preserves fun h => P h.desk.world := by
  refine .bind (.ask _) fun time => .bind (.modify fun _ held => held) fun _ => .bind (.ask _) fun e => ?_
  refine .bind (fun h held => preserve.append _ _ h.desk.world held) fun flagged => ?_
  cases flagged
  · exact .pure _
  · exact .modify fun _ held => held

theorem persist : (Run.persist s).Preserves fun h => P h.desk.world :=
  .bind (.ask _) fun e h held => preserve.save e h.desk.world held

theorem cancel : (Run.cancel s).Preserves fun h => P h.desk.world :=
  .bind (become_preserves _) fun _ => .bind (.ask _) fun _ => .bind (preserve.log _ _ _ _ _) fun _ => preserve.persist

theorem requestCancel (id : String) : (Run.requestCancel s id).Preserves fun d => P d.world := fun d held => by
  refine Act.Ensures.state (requestCancel_sound (R := fun d => P d.world) (fun _ => held) fun _ => ?_)
  refine ((preserve.load id).ensures held).mono (fun found w held => ⟨fun _ _ => held, fun e _ _ => ?_⟩)
    fun _ _ held => held
  exact preserve.cancel.ensures held

/-- Drives preserve what the single operations preserve. -/
def driving : Manner.Driving s where
  fits h := P h.desk.world
  goes _ h' := P h'.desk.world
  refl held := held
  trans _ held := held
  fits_of_goes held := held
  change held _ := held
  merges held := held
  log held _ _ _ _ _ := (preserve.log _ _ _ _ _).ensures held
  respond {h} sending held _ := preserve.respond sending h.desk.world held
  happen := by
    intro h effect held _
    refine Act.Preserves.ensures (P := fun h : Held σ => P h.desk.world) ?_ held
    cases effect with
    | cancel id => exact .bind (fun h held => preserve.requestCancel id h.desk held) fun _ => .pure _
    | _ => exact fun h held => preserve.suffer _ h.desk.world held
  persist _ held := preserve.persist.ensures held
  consume h held := ensures_consumeCancel.mpr (by split <;> exact held)
  moved expected h held := by
    refine Act.Preserves.ensures (P := fun h : Held σ => P h.desk.world) (.bind (.ask _) fun e => ?_) held
    refine .bind (fun h held => preserve.load _ h.desk.world held) fun found => ?_
    cases found <;> exact .pure _

variable (limits : Limits)

theorem drive {e : Execution} {body : Act (Held σ) (Option Execution)} (keeps : preserve.driving.Keeps body) :
    (Run.drive s e body).Preserves fun d => P d.world := by
  intro d held
  have kept := preserve.driving.keeps_aborting keeps ⟨d, e⟩ held
  have whole : (Run.drive s e body).Ensures d (fun _ d => P d.world) fun _ d => P d.world :=
    ensures_drive.mpr (kept.mono (fun _ _ held => held) fun _ _ held => held)
  exact whole.state

theorem start (e : Execution) : (Run.start s limits e).Preserves fun d => P d.world := by
  refine .bind (fun d held => by unfold Desk.claim; split <;> exact held) fun claimed => ?_
  cases claimed
  · exact .fail _
  · refine preserve.drive ?_
    rw [startBody_eq]
    exact preserve.driving.keeps_unlessMoved _ (preserve.driving.keeps_thenLoop limits preserve.driving.keeps_begin)

theorem resume (e : Execution) (time : Option Instant) (context : Members) :
    (Run.resume s limits e time context).Preserves fun d => P d.world := by
  unfold Run.resume
  split
  · exact .pure _
  refine .bind (fun d held => by unfold Desk.claim; split <;> exact held) fun claimed => ?_
  cases claimed
  · exact .pure _
  · refine preserve.drive ?_
    rw [resumeBody_now_eq]
    exact preserve.driving.keeps_unlessMoved _
      (preserve.driving.keeps_thenLoop limits (preserve.driving.keeps_wakeAt time context))

end Surroundings.Preserve

end TriggerFlow.Run
