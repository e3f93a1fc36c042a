import TriggerFlow.Proofs.Run.Separate

/-!
# Two drives of one run

If the surroundings keep what concerns one run apart from what concerns the others, a drive of a run is the same from
any two desks at which the run finds the same, and it finds the same afterwards. It is told act by act, as the drive is
put together.
-/

namespace TriggerFlow.Run.Surroundings.Separate

variable {σ α : Type} {s : Surroundings σ} (k : s.Separate) {id : String}

/-- A run that is in hand twice. -/
structure Twins (id : String) (h h' : Held σ) : Prop where
  record : h.record = h'.record
  own : h.record.id = id
  desk : k.Same id h.desk h'.desk

variable {k}

namespace Twins

variable {h h' h'' : Held σ}

theorem symm (twins : k.Twins id h h') : k.Twins id h' h :=
  ⟨twins.record.symm, twins.record ▸ twins.own, twins.desk.symm⟩

theorem trans (twins : k.Twins id h h') (twins' : k.Twins id h' h'') : k.Twins id h h'' :=
  ⟨twins.record.trans twins'.record, twins.own, twins.desk.trans twins'.desk⟩

theorem left (twins : k.Twins id h h') : k.Twins id h h := twins.trans twins.symm

theorem right (twins : k.Twins id h h') : k.Twins id h' h' := twins.symm.trans twins

end Twins

/-- An act that is the same from twins, and leaves twins. -/
def Tells (k : s.Separate) (id : String) (x : Act (Held σ) α) : Prop := x.Respects (k.Twins id)

namespace Tells

theorem current {f : Execution → Act (Held σ) α} (each : ∀ e, e.id = id → k.Tells id (f e)) :
    k.Tells id (Held.current >>= f) := by
  intro h h' twins
  have same := each h.record twins.own h h' twins
  rwa [show (Held.current >>= f) h = f h.record h from rfl,
    show (Held.current >>= f) h' = f h.record h' from congrArg (fun e => f e h') twins.record.symm]

theorem change {f : Execution → Execution} (own : ∀ e, e.id = id → (f e).id = id) : k.Tells id (Held.change f) :=
  .modify fun _ _ twins => ⟨congrArg f twins.record, own _ twins.own, twins.desk⟩

theorem atDesk {x : Act (Desk σ) α} (respects : x.Respects (k.Same id)) : k.Tells id (Held.atDesk x) :=
  respects.onPart (fun _ _ twins => twins.desk) fun _ _ twins _ _ same => ⟨twins.record, twins.own, same⟩

theorem inWorld {x : Act σ α} (respects : x.Respects (k.alike id)) : k.Tells id (Held.inWorld x) :=
  atDesk (respects.onPart (fun _ _ same => same.world) fun _ _ same _ _ world => ⟨world, same.asked, same.driven⟩)

end Tells

variable (k) (id)

theorem tells_now : k.Tells id (Run.now s) := .ask fun _ _ twins => k.now twins.desk.world

theorem tells_become (next : Status) : k.Tells id (become s next) := by
  refine Tells.current fun e own => (k.tells_now id).bind fun time => ?_
  split
  · rename_i moved
    exact Tells.change fun _ _ => (retouched_of_become? moved).run.id.trans own
  · exact .fail _

theorem respects_flagged : (Act.modify (Desk.flagged id) : Act (Desk σ) Unit).Respects (k.Same id) :=
  .modify fun _ _ same => ⟨same.world, by simp [Desk.flagged, mem_joined], same.driven⟩

theorem tells_log (nodeId action : String) (outcome : Outcome) (message : String) (data : Option Members) :
    k.Tells id (log s nodeId action outcome message data) := by
  refine (k.tells_now id).bind fun time => Act.Respects.bind (Tells.change fun _ own => own) fun _ => ?_
  refine Tells.current fun e own => ?_
  subst own
  refine (Tells.inWorld (k.append e.id _)).bind fun flagged => ?_
  cases flagged
  · exact .pure _
  · exact Tells.atDesk (k.respects_flagged e.id)

theorem tells_persist : k.Tells id (persist s) := Tells.current fun e own => own ▸ Tells.inWorld (k.save e)

theorem respects_consumeCancel : (Desk.consumeCancel id : Act (Desk σ) Bool).Respects (k.Same id) := by
  intro d d' same
  have asked : d.cancels.contains id = d'.cancels.contains id := by simpa using same.asked
  unfold Desk.consumeCancel
  rw [← asked]
  split
  · exact ⟨rfl, same.world, by simp [without], same.driven⟩
  · exact ⟨rfl, same⟩

theorem tells_consumeCancel : k.Tells id (consumeCancel (σ := σ)) :=
  Tells.current fun _ own => own ▸ Tells.atDesk (k.respects_consumeCancel _)

theorem tells_cancel : k.Tells id (cancel s) :=
  (k.tells_become id _).bind fun _ => Tells.current fun _ _ =>
    (k.tells_log id _ _ _ _ _).bind fun _ => k.tells_persist id

theorem tells_abort (failure : Failure) : k.Tells id (abort s failure) := by
  refine Tells.current fun e own => ?_
  split
  · exact .pure ()
  refine Act.Respects.bind (Tells.change fun _ own => own) fun _ => (k.tells_become id _).bind fun _ => ?_
  exact .recover ((k.tells_log id _ _ _ _ _).bind fun _ => k.tells_persist id) fun _ => .pure ()

theorem tells_successor (g : Graph) (node : String) : k.Tells id (successor (σ := σ) g node) := by
  unfold successor
  split
  · exact .pure _
  · exact .fail _

theorem tells_currentNode : k.Tells id (currentNode (σ := σ)) := by
  refine Tells.current fun e own => ?_
  split
  · exact .pure _
  · exact .fail _

theorem tells_rendered (a : Action) : k.Tells id (rendered (σ := σ) a) := Tells.current fun _ _ => .lift _ _

theorem tells_actionFailed (node : Node) (a : Action) (message : String) :
    k.Tells id (actionFailed s node a message) := by
  refine (k.tells_log id _ _ _ _ _).bind fun _ => Tells.current fun e own => ?_
  split
  · exact (k.tells_successor id _ _).bind fun _ => .pure _
  · refine Act.Respects.bind (Tells.change fun _ own => own) fun _ => ?_
    exact (k.tells_become id _).bind fun _ => .pure _

/-- What happens while an action runs changes nothing but the world. -/
theorem happen_quiet (quiet : s.Harmless) {effect : Action.Effect} (caused : s.Causes effect) (h : Held σ) :
    happen s effect h = ((s.suffer effect h.desk.world).1,
      { h with desk := { h.desk with world := (s.suffer effect h.desk.world).2 } }) := by
  cases effect with
  | cancel id => cases quiet _ caused
  | _ => rfl

/-- It is nothing to a run. -/
theorem happenAll_quiet : ∀ {effects : List Action.Effect} {h : Held σ}, (∀ effect ∈ effects, s.Causes effect) →
    k.Twins id h h → (happenAll s effects).Ensures h (fun _ => k.Twins id h) fun _ _ => False
  | [], _, _, twins => twins
  | effect :: rest, h, caused, twins => by
    have here := caused effect List.mem_cons_self
    obtain ⟨done, world⟩ := k.suffer here twins.desk.world
    have next : k.Twins id h { h with desk := { h.desk with world := (s.suffer effect h.desk.world).2 } } :=
      ⟨rfl, twins.own, .of_world world⟩
    refine (Act.ensures_bind_of_ok (by rw [happen_quiet k.quiet here, done])).mpr ?_
    refine (happenAll_quiet (fun other mem => caused other (List.mem_cons_of_mem _ mem)) next.right).mono ?_
      fun _ _ none => none
    exact fun _ _ others => next.trans others

theorem tells_send {sending : Sending} (own : sending.runId = id) (limit : Option Binary64) :
    k.Tells id (send s sending limit) := by
  -- what happens meanwhile need not be the same, so that the two are told one by one
  have sent {h : Held σ} (twins : k.Twins id h h) : (send s sending limit h).1 =
      .ok (Action.settle sending.call.kind limit (s.respond sending h.desk.world).2.1) ∧
        k.Twins id h (send s sending limit h).2 := by
    refine Act.Ensures.answer (Act.ensures_bind.mpr (ensures_inWorld.mpr ?_))
    have gone : k.Twins id h { h with desk := { h.desk with world := (s.respond sending h.desk.world).2.2 } } :=
      ⟨rfl, twins.own, .of_world (k.respond twins.desk.world sending)⟩
    refine Act.ensures_bind.mpr (Act.ensures_attempt.mpr ?_)
    refine (k.happenAll_quiet id (fun effect mem => ⟨sending, h.desk.world, mem⟩) gone.right).mono ?_
      fun _ _ none => none.elim
    exact fun _ _ after => ⟨rfl, gone.trans after⟩
  intro h h' twins
  obtain ⟨answer, after⟩ := sent twins.left
  obtain ⟨answer', after'⟩ := sent twins.right
  refine ⟨?_, after.symm.trans (twins.trans after')⟩
  rw [answer, answer', k.answer (own ▸ twins.desk.world)]

theorem tells_perform (limits : Limits) (node : Node) (a : Action) : k.Tells id (perform s limits node a) := by
  rw [perform_eq]
  refine (k.tells_rendered id a).bind fun config => Tells.current fun e own => ?_
  refine (k.tells_send id own _).bind fun answer => ?_
  cases answer with
  | error message => exact k.tells_actionFailed id node a message
  | ok result =>
    refine Act.Respects.bind (Tells.change fun _ own => own) fun _ => (k.tells_log id _ _ _ _ _).bind fun _ => ?_
    exact (k.tells_successor id _ _).bind fun _ => .pure _

theorem tells_decide (node : Node) (expression : String) : k.Tells id (Run.decide s node expression) := by
  refine Tells.current fun e own => ?_
  split
  · split
    · refine (k.tells_log id _ _ _ _ _).bind fun _ => Act.Respects.bind (Tells.change fun _ own => own) fun _ => ?_
      exact (k.tells_become id _).bind fun _ => .pure _
    · exact .fail _
  · refine (k.tells_log id _ _ _ _ _).bind fun _ => ?_
    split
    · exact .pure _
    · exact .fail _

theorem tells_parking (node : Node) (a : Action) (time : Instant) (config : Members) :
    k.Tells id (parking s node a time config) := by
  unfold parking
  split
  · exact (Act.Respects.lift _ _).bind fun _ => (Act.Respects.lift _ _).bind fun _ => .pure _
  · refine (Act.Respects.lift _ _).bind fun _ => Tells.current fun e own => (Act.Respects.lift _ _).bind fun holds => ?_
    split
    · exact (k.tells_log id _ _ _ _ _).bind fun _ => (k.tells_successor id _ _).bind fun _ => .pure _
    · refine (Act.Respects.lift _ _).bind fun limit => ?_
      cases limit with
      | none => exact (Act.Respects.pure _).bind fun _ => .pure _
      | some seconds => exact (Act.Respects.lift _ _).map.bind fun _ => .pure _

theorem tells_park (node : Node) (a : Action) : k.Tells id (park s node a) := by
  refine (k.tells_now id).bind fun time => (k.tells_rendered id a).bind fun config => ?_
  refine (k.tells_parking id node a _ config).attempt.bind fun outcome => ?_
  split
  · split
    · exact k.tells_actionFailed id _ _ _
    · exact .fail _
  · exact .pure _
  · refine (k.tells_log id _ _ _ _ _).bind fun _ => Act.Respects.bind (Tells.change fun _ own => own) fun _ => ?_
    exact (k.tells_become id _).bind fun _ => .pure _

theorem tells_finish (node : Node) : k.Tells id (finish s node) :=
  (k.tells_log id _ _ _ _ _).bind fun _ => (k.tells_become id _).bind fun _ => k.tells_persist id

theorem tells_goOn (next : Option String) : k.Tells id (goOn s next) := by
  cases next with
  | none => exact k.tells_persist id
  | some node => exact Act.Respects.bind (Tells.change fun _ own => own) fun _ => k.tells_persist id

theorem tells_begin : k.Tells id (begin s) := by
  refine (k.tells_become id _).bind fun _ => Tells.current fun e own => ?_
  split
  · exact .fail _
  · exact (k.tells_successor id _ _).bind fun _ => (k.tells_goOn id _).bind fun _ => .pure _

theorem tells_wake (time : Instant) (context : Members) : k.Tells id (wake s time context) := by
  refine Tells.current fun e own => ?_
  split
  · split
    · exact .fail _
    refine (Act.Respects.lift _ _).bind fun found => ?_
    cases found with
    | notDue => exact .pure _
    | failed message =>
      refine (k.tells_become id _).bind fun _ => Act.Respects.bind (Tells.change fun _ own => own) fun _ => ?_
      exact (k.tells_actionFailed id _ _ _).bind fun next => (k.tells_goOn id next).bind fun _ => .pure _
    | met condition =>
      refine (k.tells_become id _).bind fun _ => Act.Respects.bind (Tells.change fun _ own => own) fun _ => ?_
      have leaves (node : String) : k.Tells id (Held.current >>= fun e => successor e.graph node >>= fun next =>
          goOn s (some next) >>= fun _ => pure true) :=
        Tells.current fun _ _ => (k.tells_successor id _ _).bind fun _ => (k.tells_goOn id _).bind fun _ => .pure _
      cases condition with
      | none => exact leaves _
      | some expression => exact (k.tells_log id _ _ _ _ _).bind fun _ => leaves _
  · exact .fail _

theorem tells_wakeAt (time : Option Instant) (context : Members) : k.Tells id (wakeAt s time context) :=
  (k.tells_now id).bind fun _ => k.tells_wake id _ context

theorem tells_mayVisit : k.Tells id (mayVisit s) := by
  refine Tells.current fun e own => ?_
  split
  · refine Act.Respects.bind (Tells.current fun e own => ?_) fun _ => .pure _
    split
    · refine (k.tells_consumeCancel id).bind fun asked => ?_
      cases asked
      · exact .pure _
      · exact k.tells_cancel id
    · exact .pure _
  · refine (k.tells_consumeCancel id).bind fun asked => ?_
    cases asked
    · exact .pure _
    · exact (k.tells_cancel id).bind fun _ => .pure _

theorem tells_visit (limits : Limits) : k.Tells id (visit s limits) := by
  refine (k.tells_currentNode id).bind fun node => ?_
  split
  · split
    · exact (k.tells_park id node _).bind fun next => k.tells_goOn id next
    · exact (k.tells_perform id limits node _).bind fun next => k.tells_goOn id next
  · exact (k.tells_decide id node _).bind fun next => k.tells_goOn id next
  · exact k.tells_finish id node
  · exact .fail _

theorem tells_loop (limits : Limits) : ∀ budget, k.Tells id (loop s limits budget)
  | 0 => (k.tells_mayVisit id).bind fun goes => by
    cases goes
    · exact .pure _
    · exact .fail _
  | budget + 1 => (k.tells_mayVisit id).bind fun goes => by
    cases goes
    · exact .pure _
    · exact (k.tells_visit id limits).bind fun _ => tells_loop limits budget

theorem tells_thenLoop (limits : Limits) {opening : Act (Held σ) Bool} (tells : k.Tells id opening) :
    k.Tells id (thenLoop s limits opening) := tells.bind fun go => by
  cases go
  · exact .pure _
  · exact k.tells_loop id limits _

theorem tells_movedOn (expected : Status) : k.Tells id (movedOn s expected) := by
  refine Tells.current fun e own => ?_
  subst own
  refine (Tells.inWorld (k.load e.id)).bind fun found => ?_
  cases found <;> exact .pure _

theorem tells_unlessMoved (expected : Status) {drive : Act (Held σ) Unit} (tells : k.Tells id drive) :
    k.Tells id (unlessMoved s expected drive) := by
  refine (k.tells_movedOn id expected).bind fun moved => ?_
  cases moved with
  | some stored => exact .pure _
  | none =>
    refine (k.tells_consumeCancel id).bind fun asked => ?_
    cases asked
    · exact tells.bind fun _ => .pure _
    · exact (k.tells_cancel id).bind fun _ => .pure _

variable {id}

/-- Where a run finds the same, a drive of it is the same, and it finds the same afterwards. -/
theorem respects_drive {e : Execution} {body : Act (Held σ) (Option Execution)} (tells : k.Tells e.id body) :
    (drive s e body).Respects (k.Same e.id) := by
  intro d d' same
  have whole : k.Tells e.id (body.recover fun failure => do
      abort s failure
      pure none) := tells.recover fun failure => (k.tells_abort e.id failure).bind fun _ => .pure _
  obtain ⟨answer, twins⟩ := whole ⟨d, e⟩ ⟨d', e⟩ ⟨rfl, rfl, same⟩
  have released {h h' : Held σ} (twins : k.Twins e.id h h') :
      k.Same e.id (h.desk.released e.id h.record.isTerminal) (h'.desk.released e.id h'.record.isTerminal) := by
    rw [← twins.record]
    refine ⟨twins.desk.world, ?_, by simp [Desk.released, without]⟩
    cases h.record.isTerminal
    · exact twins.desk.asked
    · simp [Desk.released, without]
  unfold drive
  rcases first : (body.recover fun failure => do
    abort s failure
    pure none) ⟨d, e⟩ with ⟨failure | moved, h⟩ <;>
  rcases second : (body.recover fun failure => do
    abort s failure
    pure none) ⟨d', e⟩ with ⟨failure' | moved', h'⟩ <;>
  rw [first, second] at answer twins <;> cases answer
  · exact ⟨rfl, released twins⟩
  · refine ⟨?_, released twins⟩
    have record : h.record = h'.record := twins.record
    show Except.ok (Driven.mk (moved.getD h.record) h.record) = .ok (Driven.mk (moved.getD h'.record) h'.record)
    rw [record]

theorem respects_claim (id : String) : (Desk.claim id : Act (Desk σ) Bool).Respects (k.Same id) := by
  intro d d' same
  have driven : d.active.contains id = d'.active.contains id := by simpa using same.driven
  unfold Desk.claim
  rw [← driven]
  split
  · exact ⟨rfl, same⟩
  · exact ⟨rfl, same.world, same.asked, by simp⟩

theorem respects_start (limits : Limits) (e : Execution) : (start s limits e).Respects (k.Same e.id) := by
  refine (k.respects_claim e.id).bind fun claimed => ?_
  cases claimed
  · exact .fail _
  · rw [startBody_eq]
    exact k.respects_drive (k.tells_unlessMoved _ _ (k.tells_thenLoop _ limits (k.tells_begin _)))

theorem respects_resume (limits : Limits) (e : Execution) (time : Option Instant) (context : Members) :
    (resume s limits e time context).Respects (k.Same e.id) := by
  unfold resume
  split
  · exact .pure _
  refine (k.respects_claim e.id).bind fun claimed => ?_
  cases claimed
  · exact .pure _
  · rw [resumeBody_now_eq]
    exact k.respects_drive (k.tells_unlessMoved _ _ (k.tells_thenLoop _ limits (k.tells_wakeAt _ time context)))

end TriggerFlow.Run.Surroundings.Separate

/-!
## Drives and bystanders

If what concerns one run is kept apart from what concerns the others, a drive of one run leaves every other one what it
finds: its record, and whether it is driven or asked to stop. Drives of two runs then come to the same in either order.
-/

namespace TriggerFlow.Run.Surroundings.Separate

variable {σ α : Type} {s : Surroundings σ} {k : s.Separate} {id : String} {d d' d'' : Desk σ}

/-- One run has been driven, and the others find the same as before. -/
structure Spared (k : s.Separate) (id : String) (d d' : Desk σ) : Prop where
  own : k.Same id d' d'
  others : ∀ other, other ≠ id → k.Same other d d'

/-- Every run finds something at a desk. -/
def Settled (k : s.Separate) (d : Desk σ) : Prop := ∀ id, k.Same id d d

namespace Spared

theorem refl (settled : k.Settled d) : k.Spared id d d := ⟨settled id, fun other _ => settled other⟩

theorem trans (spared : k.Spared id d d') (spared' : k.Spared id d' d'') : k.Spared id d d'' :=
  ⟨spared'.own, fun other ne => (spared.others other ne).trans (spared'.others other ne)⟩

theorem settled (spared : k.Spared id d d') : k.Settled d' := by
  intro other
  by_cases same : other = id
  · exact same ▸ spared.own
  · exact (spared.others other same).right

theorem of_every (same : ∀ id, k.Same id d d') : k.Spared id d d' := ⟨(same id).right, fun other _ => same other⟩

/-- What a run that is in hand does itself is told of it already. -/
theorem of_tells {x : Act (Held σ) α} {h : Held σ} (tells : k.Tells h.record.id x) (settled : k.Settled h.desk)
    (others : ∀ other, other ≠ h.record.id → k.Same other h.desk (x h).2.desk) :
    x.Ensures h (fun _ h' => h'.record.id = h.record.id ∧ k.Spared h.record.id h.desk h'.desk)
      fun _ h' => h'.record.id = h.record.id ∧ k.Spared h.record.id h.desk h'.desk := by
  have twins : k.Twins h.record.id (x h).2 (x h).2 := (tells h h ⟨rfl, rfl, settled _⟩).2
  exact .of_state ⟨twins.own, twins.desk, others⟩

end Spared

theorem mem_joined_iff_of_ne {ids : List String} {run : String} (ne : run ≠ id) : run ∈ joined id ids ↔ run ∈ ids :=
  ⟨fun mem => (eq_or_mem_of_mem_joined mem).resolve_left ne, mem_joined_of_mem⟩

theorem mem_without_iff_of_ne {ids : List String} {run : String} (ne : run ≠ id) :
    run ∈ without id ids ↔ run ∈ ids := by
  simp [without, ne]

/-- A drive leaves the others what they find. -/
def sparing (k : s.Separate) : Manner.Driving s where
  fits h := k.Settled h.desk
  goes h h' := h'.record.id = h.record.id ∧ k.Spared h.record.id h.desk h'.desk
  refl settled := ⟨rfl, .refl settled⟩
  trans a b := ⟨b.1.trans a.1, a.2.trans (a.1 ▸ b.2)⟩
  fits_of_goes a := a.2.settled
  change settled retouched := ⟨retouched.run.id, .refl settled⟩
  merges settled := ⟨rfl, .refl settled⟩
  log := by
    intro h settled nodeId action outcome message data
    refine Spared.of_tells (k.tells_log _ _ _ _ _ _) settled fun other ne => ?_
    have world : k.alike other h.desk.world
        (s.append h.record.id ⟨s.now h.desk.world, nodeId, action, outcome, message, data⟩ h.desk.world).2 :=
      k.appendAside (settled other).world ne
    refine Act.Ensures.state (P := fun h' : Held σ => k.Same other h.desk h'.desk) ?_
    simp only [log, Act.ensures_bind, ensures_now, ensures_change, ensures_current, ensures_inWorld]
    refine (Act.Ensures.of_state world).mono ?_ fun _ w world => .of_world world
    rintro (_ | _) w world
    · exact .of_world world
    · exact ⟨world, (mem_joined_iff_of_ne ne).symm, Iff.rfl⟩
  respond {h} sending settled _ := ⟨rfl, .of_every fun id => .of_world (k.respond (settled id).world sending)⟩
  happen := by
    intro h effect settled caused
    refine .of_state ?_
    rw [happen_quiet k.quiet caused]
    exact ⟨rfl, .of_every fun id => .of_world (k.suffer caused (settled id).world).2⟩
  persist h settled := Spared.of_tells (k.tells_persist _) settled fun other ne =>
    .of_world (k.saveAside (settled other).world ne)
  consume h settled := by
    refine Spared.of_tells (k.tells_consumeCancel _) settled fun other ne => ?_
    refine Act.Ensures.state (P := fun h' : Held σ => k.Same other h.desk h'.desk) (ensures_consumeCancel.mpr ?_)
    split
    · exact ⟨(settled other).world, (mem_without_iff_of_ne ne).symm, Iff.rfl⟩
    · exact settled other
  moved expected h settled := by
    refine Spared.of_tells (k.tells_movedOn _ expected) settled fun other ne => ?_
    refine Act.Ensures.state (P := fun h' : Held σ => k.Same other h.desk h'.desk) ?_
    refine Act.ensures_bind.mpr (ensures_current.mpr (Act.ensures_bind.mpr (ensures_inWorld.mpr ?_)))
    refine (Act.Ensures.of_state (k.loadAside (settled other).world ne)).mono ?_ fun _ w world => .of_world world
    rintro (_ | _) w world <;> exact .of_world world

variable (limits : Limits)

/-- To claim a run and to give it back is nothing to the others. -/
theorem drive_spares {e : Execution} {body : Act (Held σ) (Option Execution)} (keeps : k.sparing.Keeps body)
    (settled : k.Settled d) : k.Spared e.id d (drive s e body { d with active := e.id :: d.active }).2 := by
  have claimed : k.Spared e.id d { d with active := e.id :: d.active } :=
    ⟨⟨(settled _).world, Iff.rfl, Iff.rfl⟩, fun other ne => ⟨(settled other).world, Iff.rfl, by simp [ne]⟩⟩
  have released {h : Held σ} {ended : Bool} (spared : k.Spared e.id { d with active := e.id :: d.active } h.desk) :
      k.Spared e.id d (h.desk.released e.id ended) := by
    refine claimed.trans (spared.trans ⟨⟨spared.own.world, Iff.rfl, Iff.rfl⟩, fun other ne => ?_⟩)
    refine ⟨(spared.settled other).world, ?_, (mem_without_iff_of_ne ne).symm⟩
    cases ended
    · exact Iff.rfl
    · exact (mem_without_iff_of_ne ne).symm
  have kept := k.sparing.keeps_aborting keeps ⟨{ d with active := e.id :: d.active }, e⟩ claimed.settled
  refine Act.Ensures.state (P := k.Spared e.id d) (ensures_drive.mpr (kept.mono ?_ ?_))
  · exact fun _ h left => released left.2
  · exact fun _ h left => released left.2

/-- To start a run leaves the others what they find. -/
theorem start_spares (e : Execution) (settled : k.Settled d) : k.Spared e.id d (start s limits e d).2 := by
  refine Act.Ensures.state (P := k.Spared e.id d) (Act.ensures_bind.mpr (ensures_claim.mpr ?_))
  split
  · exact .refl settled
  rw [startBody_eq]
  exact .of_state (k.drive_spares
    (k.sparing.keeps_unlessMoved _ (k.sparing.keeps_thenLoop limits k.sparing.keeps_begin)) settled)

/-- And so does to resume it. -/
theorem resume_spares (e : Execution) (time : Option Instant) (context : Members) (settled : k.Settled d) :
    k.Spared e.id d (resume s limits e time context d).2 := by
  refine Act.Ensures.state (P := k.Spared e.id d) ?_
  unfold resume
  split
  · exact .refl settled
  refine Act.ensures_bind.mpr (ensures_claim.mpr ?_)
  split
  · exact .refl settled
  rw [resumeBody_now_eq]
  exact .of_state (k.drive_spares
    (k.sparing.keeps_unlessMoved _ (k.sparing.keeps_thenLoop limits (k.sparing.keeps_wakeAt time context))) settled)

end TriggerFlow.Run.Surroundings.Separate
