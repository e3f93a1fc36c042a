import TriggerFlow.Proofs.Run.Attending
import TriggerFlow.Proofs.Run.Drive

/-!
# What a visit sends out

The call of a node is settled by the record that comes to it. It goes out before anything is logged on the visit, things
may happen around the run while it is carried out, and after that the visit sends nothing out and takes up no request.
Neither does a visit to a node without a call, and neither do openings.
-/

namespace TriggerFlow.Run

variable {σ : Type} {s : Surroundings σ} {k : Chronicle s} {h h' v w : Held σ} {call : Sending}

/-- The call that a visit to a node makes, if it makes one. -/
def callAt (e : Execution) (node : Node) : Option Sending :=
  match node.task with
  | .action a =>
    if a.kind.parks then none else (Template.renderMembers e.vars a.config).toOption.map (sendingOf e node a)
  | _ => none

/-- The call that is made where a run has come to. -/
def callOf (e : Execution) : Option Sending := (e.nodeId.bind e.graph.node?).bind (callAt e)

/-- What is in hand when a call has gone out, before anything happens around the run. -/
def called (s : Surroundings σ) (call : Sending) (h : Held σ) : Held σ :=
  { h with desk := { h.desk with world := (s.respond call h.desk.world).2.2 } }

theorem callAt_action {e : Execution} {node : Node} {a : Action} (task : node.task = .action a) :
    callAt e node = if a.kind.parks then none else
      (Template.renderMembers e.vars a.config).toOption.map (sendingOf e node a) := by
  unfold callAt
  rw [task]

theorem callOf_eq_some {e : Execution} (makes : callOf e = some call) : ∃ node a config,
    e.nodeId.bind e.graph.node? = some node ∧ node.task = .action a ∧ a.kind.parks = false ∧
      Template.renderMembers e.vars a.config = .ok config ∧ sendingOf e node a config = call := by
  obtain ⟨node, found, makes⟩ := Option.bind_eq_some_iff.mp makes
  cases task : node.task with
  | action a =>
    rw [callAt_action task] at makes
    cases parks : a.kind.parks with
    | true => simp [parks] at makes
    | false =>
      cases rendered : Template.renderMembers e.vars a.config with
      | error fault => simp [parks, rendered, Except.toOption] at makes
      | ok config =>
        simp only [parks, rendered, Except.toOption, Bool.false_eq_true, if_false, Option.map_some,
          Option.some.injEq] at makes
        exact ⟨node, a, config, found, task, parks, rendered, makes⟩
  | _ => simp [callAt, task] at makes

theorem rendered_ok {a : Action} {config : Members}
    (renders : Template.renderMembers h.record.vars a.config = .ok config) : rendered a h = (.ok config, h) := by
  rw [rendered, Act.bind_run_ok (show Held.current h = (.ok h.record, h) from rfl), renders]
  rfl

theorem rendered_error {a : Action} {fault : Path.Fault}
    (renders : Template.renderMembers h.record.vars a.config = .error fault) :
    rendered a h = (.error (.path fault), h) := by
  rw [rendered, Act.bind_run_ok (show Held.current h = (.ok h.record, h) from rfl), renders]
  rfl

/-- A visit that makes a call sends it out, concludes from what comes back, and goes on. -/
theorem visit_eq_of_call (limits : Limits) {node : Node} {a : Action} {config : Members}
    (found : v.record.nodeId.bind v.record.graph.node? = some node) (task : node.task = .action a)
    (parks : a.kind.parks = false) (renders : Template.renderMembers v.record.vars a.config = .ok config) :
    visit s limits v = (do
      let answer ← send s (sendingOf v.record node a config) (a.timeout.or limits.timeout)
      let next ← concluded s v.record.graph node a config answer
      goOn s next) v := by
  unfold visit
  rw [Act.bind_run_ok (currentNode_at found), task]
  simp only [parks, perform_eq, Bool.false_eq_true, if_false, bind_assoc]
  rw [Act.bind_run_ok (rendered_ok renders)]
  rfl

namespace Manner.Storing

variable (m : Manner.Storing s)

/-- After the call of a node has gone out and things have happened, the rest of the visit respects the manner. -/
theorem visit_of_call (merges : m.Merges) (limits : Limits) (makes : callOf v.record = some call)
    (happens : (happenAll s (s.respond call v.desk.world).1).Ensures (called s call v)
      (fun _ => m.goes w) fun _ => m.goes w) :
    (visit s limits).Ensures v (fun _ => m.goes w) fun _ => m.goes w := by
  obtain ⟨node, a, config, found, task, parks, renders, rfl⟩ := callOf_eq_some makes
  have concludes (answer : Except String Action.Result) {h : Held σ} (goes : m.goes w h) :
      (do
        let next ← concluded s v.record.graph node a config answer
        goOn s next).Ensures h (fun _ => m.goes w) fun _ => m.goes w := by
    apply Goes.after goes
    exact (m.keeps_concluded merges _ node a config answer h (m.fits_of_goes goes)).bind fun next _ fits =>
      m.keeps_goOn next _ fits
  rw [Act.ensures_of_eq (visit_eq_of_call limits found task parks renders)]
  unfold send
  simp only [bind_assoc]
  refine Act.ensures_bind.mpr (ensures_inWorld.mpr ?_)
  apply Act.ensures_bind.mpr
  apply Act.ensures_attempt.mpr
  apply happens.mono
  · exact fun _ h goes => concludes _ goes
  · exact fun failure h goes => concludes _ goes

/-- A visit to a node that makes no call respects the manner. -/
theorem visit_of_no_call (limits : Limits) (fits : m.fits h) (makes : callOf h.record = none) :
    m.Goes (visit s limits) h := by
  cases found : h.record.nodeId.bind h.record.graph.node? with
  | none =>
    refine Act.ensures_bind.mpr (Act.ensures_bind.mpr (ensures_current.mpr ?_))
    rw [found]
    exact m.refl fits
  | some node =>
    have quiet : callAt h.record node = none := by simpa [callOf, found] using makes
    unfold visit
    rw [Goes, Act.ensures_bind_of_ok (currentNode_at found)]
    split
    · rename_i a task
      rw [callAt_action task] at quiet
      cases parks : a.kind.parks with
      | true => exact (m.keeps_park node a h fits).bind fun next _ fits => m.keeps_goOn next _ fits
      | false =>
        cases renders : Template.renderMembers h.record.vars a.config with
        | ok config => simp [parks, renders, Except.toOption] at quiet
        | error fault =>
          simp only [perform_eq, Bool.false_eq_true, if_false, bind_assoc]
          have fails : rendered a h = Act.fail (.path fault) h := rendered_error renders
          exact Act.ensures_bind.mpr ((Act.ensures_of_eq fails).mpr (m.refl fits))
    · exact (m.keeps_decide node _ h fits).bind fun next _ fits => m.keeps_goOn next _ fits
    · exact m.keeps_finish node h fits
    · exact m.refl fits

end Manner.Storing

/-- What is asked in an entry of a log is asked besides what has been asked before. -/
theorem log_flags (nodeId action : String) (outcome : Outcome) (message : String) (data : Option Members) :
    (log s nodeId action outcome message data).Ensures h (fun _ h' => ∀ run ∈ h.desk.cancels, run ∈ h'.desk.cancels)
      fun _ h' => ∀ run ∈ h.desk.cancels, run ∈ h'.desk.cancels := by
  simp only [log, Act.ensures_bind, ensures_now, ensures_change, ensures_current, ensures_inWorld]
  apply (Act.Ensures.run _ _).mono
  · intro asked w _
    cases asked with
    | true => exact fun _ => mem_joined_of_mem
    | false => exact fun _ asked => asked
  · exact fun _ w _ _ asked => asked

/-- Nothing has gone out, what has been asked is still asked, and other runs have changed as they may meanwhile. -/
structure Still (k : Chronicle s) (h h' : Held σ) : Prop where
  own : h'.record.id = h.record.id
  around : Around k.toLedger h.record.id h.desk h'.desk
  sent : k.sent h'.desk.world = k.sent h.desk.world
  flags : ∀ run ∈ h.desk.cancels, run ∈ h'.desk.cancels

/-- Whatever is done without sending an action out and without taking up requests. -/
def still (k : Chronicle s) : Manner.Storing s where
  fits h := k.valid h.desk.world
  goes := Still k
  refl valid := ⟨rfl, .refl valid, rfl, fun _ asked => asked⟩
  trans a b := ⟨b.own.trans a.own, a.around.trans (a.own ▸ b.around), b.sent.trans a.sent,
    fun run asked => b.flags run (a.flags run asked)⟩
  fits_of_goes a := a.around.valid
  change valid retouched := ⟨retouched.run.id, .refl valid, rfl, fun _ asked => asked⟩
  log := by
    intro h valid nodeId action outcome message data
    apply ((log_spec (k := k.toLedger) valid nodeId action outcome message data).and (log_flags _ _ _ _ _)).mono
    · rintro - h' ⟨⟨e, _, record, active, _, becomes⟩, flags⟩
      exact ⟨by rw [record]; rfl, .of_update active becomes, becomes.sent, flags⟩
    · rintro _ h' ⟨⟨_, _, record, desk, same⟩, flags⟩
      exact ⟨by rw [record]; rfl, .of_same (by rw [desk]) same, same.sent, flags⟩
  happen := by
    intro h effect valid caused
    have plain (records : afterEffect (k.record h.desk.world) effect = k.record h.desk.world) :
        (Held.inWorld (s.suffer effect)).Ensures h (fun _ => Still k h) fun _ => Still k h := by
      apply ensures_inWorld.mpr
      apply (k.suffer_same valid records).mono
      · exact fun _ w same => ⟨rfl, .of_same rfl same, same.sent, fun _ asked => asked⟩
      · exact fun _ w same => ⟨rfl, .of_same rfl same, same.sent, fun _ asked => asked⟩
    cases effect with
    | pass micros => exact plain rfl
    | draw => exact plain rfl
    | cancel id =>
      apply Act.ensures_bind.mpr
      apply ensures_atDesk.mpr
      apply (requestCancel_asked valid id).mono
      · exact fun _ d asked => ⟨rfl, asked.around, asked.sent, asked.flags⟩
      · exact fun _ d asked => ⟨rfl, asked.around, asked.sent, asked.flags⟩
    | forget id =>
      have unspared : ¬ s.Spares id := fun spares => caused.spared id spares rfl
      apply ensures_inWorld.mpr
      apply (k.suffer valid (.forget id)).mono
      · exact fun _ w becomes => ⟨rfl, .of_lost unspared becomes, becomes.sent, fun _ asked => asked⟩
      · exact fun _ w same => ⟨rfl, .of_same rfl same, same.sent, fun _ asked => asked⟩
  persist := by
    intro h valid
    apply (persist_spec (k := k.toLedger) valid).mono _ fun _ _ none => none.elim
    rintro - h' ⟨record, desk, becomes⟩
    have active : h'.desk.active = h.desk.active := by rw [desk]
    exact ⟨by rw [record], .of_update active becomes, becomes.sent, fun run asked => by rwa [desk]⟩

theorem still_merges (k : Chronicle s) : (still k).Merges := fun valid => ⟨rfl, .refl valid, rfl, fun _ asked => asked⟩

end TriggerFlow.Run
