import TriggerFlow.Proofs.Run.Stations
import TriggerFlow.Proofs.Run.Calm

/-!
# What driving any copy of a run comes to

Whoever starts or resumes a run hands in a copy of it, which may be stale and may even contradict the stored record. The
drive then does one of few things: it leaves everything as it was, because the stored record has moved on, the run is
not due, or the copy has ended; it cancels the run because it is asked to; or it takes the run to a station where the
run rests, and breaks off with a failure only to end the run. Nothing else is ever stored, and a drive always comes
back.
-/

namespace TriggerFlow.Run

variable {σ α : Type} {s : Surroundings σ} {k : Chronicle s} {sound : Prop} {expected : Status} {limits : Limits}
  {h h' h'' : Held σ}

/-- How an opening turns out: the run goes on from a station, or it stays as it was, or it has failed. -/
inductive Embarks (k : Chronicle s) (sound : Prop) (h h' : Held σ) : Bool → Prop
  | goes (advances : Advances k sound h h') (running : h'.record.status = .running) : Embarks k sound h h' true
  | rests (same : h' = h) : Embarks k sound h h' false
  | fails (advances : Advances k sound h h') (failed : h'.record.status = .failed) : Embarks k sound h h' false

/-- How an opening fails: on a copy that has ended nothing is done, and else the run is left living. -/
inductive Falters (k : Chronicle s) (h h' : Held σ) : Prop
  | ended (ended : h.record.isTerminal) (same : h' = h)
  | lives (attends : Attends k h h') (lives : h'.record.isTerminal = false)

section Openings

/-- Only a run that has not begun, or that waits, comes to be running. -/
theorem eq_of_become?_running {e e' : Execution} {time : Instant} (moved : e.become? .running time = some e') :
    e' = { e with status := .running } ∧ (e.status = .pending ∨ e.status = .waiting) := by
  rw [Execution.become?] at moved
  split at moved
  · rename_i can
    refine ⟨(Option.some.inj moved).symm, ?_⟩
    cases status : e.status <;> rw [status] at can <;> simp_all [Status.canBecome]
  · cases moved

theorem begin_embarks (facing : Facing k .pending h)
    (sense : sound → h.record.WellFormed ∧ h.record.status ≠ .waiting) :
    (begin s).Ensures h (fun go h' => Embarks k sound h h' go) fun _ => Falters k h := by
  apply Act.ensures_bind.mpr
  apply ensures_become.mpr
  constructor
  · intro e moved
    obtain ⟨rfl, idle⟩ := eq_of_become?_running moved
    have attends : Attends k h { h with record := { h.record with status := .running } } :=
      (Attends.refl facing.attending).rerecord ⟨rfl, rfl, rfl⟩
    refine Act.ensures_bind.mpr (ensures_current.mpr ?_)
    split
    · exact .lives attends rfl
    · rename_i trigger _ _
      apply Act.ensures_bind.mpr
      apply ensures_successor
      · intro first
        have headed : sound → (headed (some first) { h.record with status := .running }).WellFormed := by
          intro driver
          obtain ⟨wellFormed, awake⟩ := sense driver
          have pending : h.record.status = .pending := idle.resolve_right awake
          have lives : h.record.isTerminal = false := by rw [Execution.isTerminal, pending]; rfl
          exact .running rfl (wellFormed.completedAt_eq lives) (wellFormed.wait_eq awake) (wellFormed.error_eq lives)
        apply Act.ensures_bind.mpr
        have advances := goOn_advances (some first) facing attends (.of_pending _) (by simp) headed
        apply advances.mono _ fun _ _ none => none.elim
        rintro - h' ⟨running, advances⟩
        exact .goes advances running
      · exact fun _ => .lives attends rfl
  · intro _
    cases ended : h.record.isTerminal with
    | true => exact .ended ended rfl
    | false => exact .lives (.refl facing.attending) ended

/-- A waiting run that has been taken up: it is running again, and waits for nothing. -/
def takenUp (h : Held σ) : Held σ := { h with record := { h.record with status := .running, wait := none } }

/-- The way on from the node where a run was parked. -/
def departing (s : Surroundings σ) (id : String) : Act (Held σ) Bool := do
  let e ← Held.current
  goOn s (some (← successor e.graph id))
  return true

/-- The way on from that node, or the end there, if the wait has failed. -/
def overdue (s : Surroundings σ) (node : Node) (a : Action) (message : String) : Act (Held σ) Bool := do
  let next ← actionFailed s node a message
  goOn s next
  return next.isSome

/-- What a waiting run comes to is told by the look at it: it stays, or it is taken up and fails or departs, maybe with an
entry for the condition that is met. -/
theorem ensures_wake {time : Instant} {context : Members} {good : Bool → Held σ → Prop}
    {bad : Failure → Held σ → Prop} (waits : h.record.status = .waiting) (strays : ∀ failure, bad failure h)
    (rests : lookAt h.record time context = .ok .notDue → good false h)
    (fails : ∀ node a message, h.record.nodeId.bind h.record.graph.node? = some node →
      (overdue s node a message).Ensures (takenUp h) good bad)
    (departs : ∀ node, h.record.nodeId.bind h.record.graph.node? = some node →
      (departing s node.id).Ensures (takenUp h) good bad ∧ ∀ action message,
        (log s node.id action .success message none >>= fun _ => departing s node.id).Ensures (takenUp h) good bad) :
    (wake s time context).Ensures h good bad := by
  have takesUp {x : Act (Held σ) Bool} (then_ : x.Ensures (takenUp h) good bad) : (do
      become s .running
      Held.change fun e => { e with wait := none }
      x).Ensures h good bad := by
    refine Act.ensures_bind.mpr (ensures_become.mpr ⟨?_, ?_⟩)
    · intro e moved
      obtain ⟨rfl, -⟩ := eq_of_become?_running moved
      exact Act.ensures_bind.mpr (ensures_change.mpr then_)
    · intro stays
      simp [Execution.become?, waits, Status.canBecome, Status.isTerminal] at stays
  refine Act.ensures_bind.mpr (ensures_current.mpr ?_)
  split
  · rename_i id label position a at_
    split
    · exact strays _
    refine Act.ensures_bind.mpr (Act.ensures_lift.mpr ⟨?_, fun _ _ => strays _⟩)
    intro found looked
    cases found with
    | notDue => exact rests looked
    | failed message => exact takesUp (fails ⟨id, label, position, .action a⟩ a message at_)
    | met condition =>
      obtain ⟨plain, noted⟩ := departs ⟨id, label, position, .action a⟩ at_
      cases condition with
      | none => exact takesUp plain
      | some expression => exact takesUp (noted _ _)
  · exact strays _

section Wake

variable (facing : Facing k .waiting h) (waits : h.record.status = .waiting) (sense : sound → h.record.WellFormed)
  {node : Node} (at_ : h.record.nodeId.bind h.record.graph.node? = some node)

include waits sense in
theorem takenUp_wellFormed : sound → (takenUp h).record.WellFormed := by
  intro driver
  have lives := Execution.lives_of_waiting waits
  exact .running rfl ((sense driver).completedAt_eq lives) rfl ((sense driver).error_eq lives)

include facing

theorem takenUp_attends : Attends k h (takenUp h) :=
  (Attends.refl facing.attending).rerecord ⟨rfl, rfl, rfl⟩

include waits sense at_

/-- A run that departs goes on from a station. -/
theorem departing_embarks {h₁ : Held σ} (attends : Attends k h h₁)
    (on : Onward (takenUp h).record h₁.record) :
    (departing s node.id).Ensures h₁ (fun go h' => Embarks k sound h h' go) fun _ => Falters k h := by
  refine Act.ensures_bind.mpr (ensures_current.mpr (Act.ensures_bind.mpr ?_))
  apply ensures_successor
  · intro next
    apply Act.ensures_bind.mpr
    have turned : Turned node (takenUp h).record (some next) h₁.record := .leads next on
    have path : Status.LeadsTo .waiting .running := .of_move rfl
    have sense' := takenUp_wellFormed waits sense
    apply (goOn_turned facing attends turned rfl path at_ sense').mono _ fun _ _ none => none.elim
    rintro - h₂ ⟨status, advances⟩
    exact .goes advances (status.trans on.status)
  · exact fun _ => .lives attends (Execution.lives_of_running on.status)

/-- A run whose wait has failed goes on from a station or has failed. -/
theorem overdue_embarks (a : Action) (message : String) :
    (overdue s node a message).Ensures (takenUp h) (fun go h' => Embarks k sound h h' go) fun _ => Falters k h := by
  have awake := takenUp_attends facing
  have fails := (actionFailed_turned (s := s) (h := takenUp h) node a message rfl).and
    ((actionFailed_ends node a message).and ((attending k).keeps_actionFailed node a message _ awake.fits))
  apply Act.ensures_bind.mpr
  apply fails.mono
  · rintro next h₁ ⟨turned, ends, attends⟩
    apply Act.ensures_bind.mpr
    have path : Status.LeadsTo .waiting .running := .of_move rfl
    have sense' := takenUp_wellFormed waits sense
    apply (goOn_turned facing (awake.trans attends) turned rfl path at_ sense').mono _ fun _ _ none => none.elim
    rintro - h₂ ⟨status, advances⟩
    cases next with
    | none => exact .fails advances (status.trans (ends rfl))
    | some next =>
      cases turned with
      | leads _ on => exact .goes advances (status.trans on.status)
  · rintro _ h₁ ⟨on, -, attends⟩
    exact .lives (awake.trans attends) (Execution.lives_of_running on.status)

omit at_

theorem wake_embarks (time : Instant) (context : Members) :
    (wake s time context).Ensures h (fun go h' => Embarks k sound h h' go) fun _ => Falters k h := by
  have awake := takenUp_attends facing
  apply ensures_wake waits
  · exact fun _ => .lives (.refl facing.attending) (Execution.lives_of_waiting waits)
  · exact fun _ => .rests rfl
  · exact fun node a message at_ => overdue_embarks facing waits sense at_ a message
  · intro node at_
    refine ⟨departing_embarks facing waits sense at_ awake (.refl _), fun action message => ?_⟩
    have logs := (log_attends awake.fits node.id action .success message none).and
      (log_onward node.id action .success message none)
    apply Act.ensures_bind.mpr
    apply logs.mono
    · rintro _ h₁ ⟨attends, on⟩
      exact departing_embarks facing waits sense at_ (awake.trans attends) on
    · rintro _ h₁ ⟨attends, on⟩
      exact .lives (awake.trans attends) (Execution.lives_of_running on.status)

end Wake

/-- The visits that follow an opening. -/
theorem thenLoop_arrives {opening : Act (Held σ) Bool}
    (embarks : opening.Ensures h (fun go h' => Embarks k sound h h' go) fun _ => Falters k h) :
    (thenLoop s limits opening).Ensures h (fun _ h' => h' = h ∨ Arrives k sound h h')
      fun _ h' => h.record.isTerminal ∧ h' = h ∨ Strands k sound h h' := by
  apply Act.ensures_bind.mpr
  apply embarks.mono
  · intro go h₁ opened
    cases opened with
    | goes advances running =>
      apply (loop_station limits.steps.toNat advances.station).mono
      · exact fun _ _ arrives => .inr (advances.arrives arrives)
      · exact fun _ _ strands => .inr ⟨strands.fits, advances.travels.trans strands.travels, strands.lives⟩
    | rests same => exact .inl same
    | fails advances failed =>
      have ended : h₁.record.isTerminal := by rw [Execution.isTerminal, failed]; rfl
      exact .inr ⟨advances.station, advances.travels, by simp [failed], fun _ => ended, fun _ => ended⟩
  · intro _ h₁ falters
    cases falters with
    | ended ended same => exact .inl ⟨ended, same⟩
    | lives attends lives => exact .inr (attends.strands lives)

end Openings

section Whole

/-- Nothing has changed that is kept of runs, but that a request to cancel the run in hand may be gone. -/
structure Untouched (k : Chronicle s) (h h' : Held σ) : Prop where
  record : h'.record = h.record
  active : h'.desk.active = h.desk.active
  flags : ∀ run, run ≠ h.record.id → run ∈ h.desk.cancels → run ∈ h'.desk.cancels
  same : k.Same h.desk.world h'.desk.world
  notes : k.notes h'.desk.world = k.notes h.desk.world

theorem Untouched.travels (untouched : Untouched k h h') : Travels k sound h h' where
  run := untouched.record ▸ .refl _
  accounts := .of_same untouched.active untouched.flags untouched.same untouched.notes

theorem Untouched.consumed (untouched : Untouched k h h') : Untouched k h (consumed h') where
  record := untouched.record
  active := untouched.active
  flags run ne asked := by
    have kept := untouched.flags run ne asked
    have other : run ≠ h'.record.id := by rwa [untouched.record]
    simpa [Run.consumed, without] using ⟨kept, other⟩
  same := untouched.same
  notes := untouched.notes

/-- What is known of the stored record before a look at it is known after it. -/
theorem Untouched.facing (untouched : Untouched k h h') (claimed : h.record.id ∈ h.desk.active)
    (lives : expected.isTerminal = false)
    (standing : ∀ e, k.record h.desk.world h.record.id = some e → e.status = expected) : Facing k expected h' where
  valid := untouched.same.valid
  claimed := by
    rw [untouched.record, untouched.active]
    exact claimed
  lives := lives
  standing := by
    rw [untouched.record, untouched.same.record]
    exact standing

/-- The run has been driven on, to where it rests or ends. -/
structure Drives (k : Chronicle s) (sound : Prop) (h h' : Held σ) : Prop where
  travels : Travels k sound h h'
  rests : h'.record.status ≠ .running
  begun : h'.record.status ≠ .pending
  heard : k.heard h.desk.world h.record.id < k.heard h'.desk.world h.record.id → h'.record.isTerminal
  wellFormed : sound → h'.record.WellFormed
  stored : k.record h'.desk.world h.record.id = some h'.record ∨
    k.record h'.desk.world h.record.id = none ∧ h'.record.isTerminal

/-- What becomes of a copy that is driven, which is expected in a state. -/
inductive Conduct (k : Chronicle s) (sound : Prop) (expected : Status) (h h' : Held σ) : Prop
  /-- The stored record is in another state. -/
  | moved (stored : Execution) (known : k.record h.desk.world h.record.id = some stored)
    (differs : stored.status ≠ expected) (untouched : Untouched k h h') (cancels : h'.desk.cancels = h.desk.cancels)
  /-- The run is not due, or the copy has ended. -/
  | idle (standing : ∀ e, k.record h.desk.world h.record.id = some e → e.status = expected)
    (untouched : Untouched k h h') (unasked : h.record.isTerminal = false → h.record.id ∉ h.desk.cancels)
  /-- A request to cancel has been taken up. -/
  | obeyed (standing : ∀ e, k.record h.desk.world h.record.id = some e → e.status = expected)
    (obeyed : Obeyed k sound h h')
  | driven (standing : ∀ e, k.record h.desk.world h.record.id = some e → e.status = expected)
    (unasked : h.record.id ∉ h.desk.cancels) (drives : Drives k sound h h')

theorem Conduct.travels (conduct : Conduct k sound expected h h') : Travels k sound h h' := by
  cases conduct with
  | moved _ _ _ untouched => exact untouched.travels
  | idle _ untouched => exact untouched.travels
  | obeyed _ obeyed => exact obeyed.travels
  | driven _ _ drives => exact drives.travels

theorem movedOn_untouched (expected : Status) (valid : k.valid h.desk.world) : (movedOn s expected).Ensures h
    (fun moved h' => moved = (k.record h.desk.world h.record.id).filter (fun stored => stored.status ≠ expected) ∧
      Untouched k h h' ∧ h'.desk.cancels = h.desk.cancels)
    fun _ _ => False := by
  have notes : (movedOn s expected).Ensures h (fun _ h' => k.notes h'.desk.world = k.notes h.desk.world)
      fun _ h' => k.notes h'.desk.world = k.notes h.desk.world := by
    refine Act.ensures_bind.mpr (ensures_current.mpr (Act.ensures_bind.mpr (ensures_inWorld.mpr ?_)))
    apply (k.load_notes valid h.record.id).mono _ fun _ _ notes => notes
    intro found w notes
    cases found <;> exact notes
  apply ((movedOn_spec (k := k.toLedger) expected valid).and notes).mono _ fun _ _ none => none.1
  rintro moved h' ⟨⟨found, record, desk, same⟩, notes⟩
  have cancels : h'.desk.cancels = h.desk.cancels := by rw [desk]
  exact ⟨found, ⟨record, by rw [desk], fun run _ asked => cancels ▸ asked, same, notes⟩, cancels⟩

/-- A request that is taken up after a look at the stored record has been there before. -/
theorem Untouched.obeyed (untouched : Untouched k h h') (cancels : h'.desk.cancels = h.desk.cancels)
    (obeyed : Obeyed k sound h' h'') : Obeyed k sound h h'' where
  travels := untouched.travels.trans obeyed.travels
  asked := by
    have asked := obeyed.asked
    rwa [untouched.record, cancels] at asked
  lives := by
    rw [← untouched.record]
    exact obeyed.lives
  record := by
    rw [← untouched.record]
    exact obeyed.record
  sent := obeyed.sent.trans untouched.same.sent
  stored := by
    rw [← untouched.record, ← untouched.same.record]
    exact obeyed.stored

/-- How a drive stands when it has failed, before the failure ends the run. -/
inductive Failing (k : Chronicle s) (sound : Prop) (expected : Status) (h h' : Held σ) : Prop
  | ended (conduct : Conduct k sound expected h h') (ended : h'.record.isTerminal)
  | lives (standing : ∀ e, k.record h.desk.world h.record.id = some e → e.status = expected)
    (unasked : h.record.id ∉ h.desk.cancels) (strands : Strands k sound h h')

section Standing

variable {h₁ : Held σ} (standing : ∀ e, k.record h.desk.world h.record.id = some e → e.status = expected)
  (untouched : Untouched k h h₁) (cancels : h₁.desk.cancels = h.desk.cancels) (facing : Facing k expected h₁)
include standing untouched cancels facing

/-- A request to cancel is taken up, unless the copy has ended. -/
theorem cancel_conduct (error : sound → h.record.isTerminal = false → h.record.error = none)
    (asked : h₁.record.id ∈ h₁.desk.cancels) :
    (cancel s).Ensures (consumed h₁) (fun _ => Conduct k sound expected h) fun _ => Failing k sound expected h := by
  cases ended : h.record.isTerminal with
  | true =>
    have refuses : h₁.record.become? .cancelled (s.now h₁.desk.world) = none := by
      rw [untouched.record]
      exact Execution.become?_eq_none_of_isTerminal ended _ _
    have idle : Conduct k sound expected h (consumed h₁) :=
      .idle standing untouched.consumed fun lives => by simp [ended] at lives
    have done : (consumed h₁).record.isTerminal := by rw [consumed, untouched.record, ended]
    refine Act.ensures_bind.mpr (ensures_become.mpr ⟨?_, fun _ => .ended idle done⟩)
    intro e moved
    cases refuses.symm.trans moved
  | false =>
    have lives : h₁.record.isTerminal = false := by rw [untouched.record, ended]
    have error : sound → h₁.record.error = none := fun driver => by
      rw [untouched.record]
      exact error driver ended
    apply (cancel_obeyed sound facing.attending asked lives error).mono
    · rintro _ h' ⟨obeyed, -⟩
      exact .obeyed standing (untouched.obeyed cancels obeyed)
    · rintro _ h' ⟨obeyed, -⟩
      exact .ended (.obeyed standing (untouched.obeyed cancels obeyed)) obeyed.ended

/-- Nobody has asked for a stop, and the run is driven. -/
theorem thenLoop_conduct {opening : Act (Held σ) Bool} (unasked : h₁.record.id ∉ h₁.desk.cancels)
    (embarks : opening.Ensures h₁ (fun go h' => Embarks k sound h₁ h' go) fun _ => Falters k h₁) :
    (thenLoop s limits opening).Ensures h₁ (fun _ => Conduct k sound expected h) fun _ => Failing k sound expected h := by
  have own : h₁.record.id = h.record.id := by rw [untouched.record]
  have unasked₀ : h.record.id ∉ h.desk.cancels := by rwa [← own, ← cancels]
  have idle : Conduct k sound expected h h₁ := .idle standing untouched fun _ => unasked₀
  apply (thenLoop_arrives embarks).mono
  · rintro - h' (rfl | arrives)
    · exact idle
    · have stored := arrives.station.stored
      rw [arrives.travels.run.id, own] at stored
      have heard := arrives.heard
      rw [own, Chronicle.heard_same untouched.notes] at heard
      exact .driven standing unasked₀ ⟨untouched.travels.trans arrives.travels, arrives.rests,
        arrives.station.begun, heard, arrives.station.wellFormed, .inl stored⟩
  · rintro _ h' (⟨ended, rfl⟩ | strands)
    · exact .ended idle ended
    · exact .lives standing unasked₀ ⟨strands.fits, untouched.travels.trans strands.travels, strands.lives⟩

end Standing

theorem unlessMoved_conduct {opening : Act (Held σ) Bool} (valid : k.valid h.desk.world)
    (claimed : h.record.id ∈ h.desk.active) (lives : expected.isTerminal = false)
    (error : sound → h.record.isTerminal = false → h.record.error = none)
    (embarks : ∀ h₁, Facing k expected h₁ → h₁.record = h.record →
      opening.Ensures h₁ (fun go h' => Embarks k sound h₁ h' go) fun _ => Falters k h₁) :
    (unlessMoved s expected (thenLoop s limits opening)).Ensures h
      (fun moved h' => (moved = none ∨ moved = k.record h.desk.world h.record.id) ∧ Conduct k sound expected h h')
      fun _ => Failing k sound expected h := by
  apply Act.ensures_bind.mpr
  apply (movedOn_untouched expected valid).mono _ fun _ _ none => none.elim
  rintro moved h₁ ⟨found, untouched, cancels⟩
  by_cases differs : ∃ stored, k.record h.desk.world h.record.id = some stored ∧ stored.status ≠ expected
  · obtain ⟨stored, known, differs⟩ := differs
    have moves : moved = some stored := by
      rw [found, known]
      simp [differs]
    subst moves
    exact ⟨.inr known.symm, .moved stored known differs untouched cancels⟩
  have standing : ∀ e, k.record h.desk.world h.record.id = some e → e.status = expected := by
    intro e known
    by_contra other
    exact differs ⟨e, known, other⟩
  have unmoved : moved = none := by
    rw [found, Option.filter_eq_none_iff]
    intro e known
    simp [standing e known]
  subst unmoved
  have facing : Facing k expected h₁ := untouched.facing claimed lives standing
  apply Act.ensures_bind.mpr
  apply ensures_consume
  · intro asked
    apply Act.ensures_bind.mpr
    exact (cancel_conduct standing untouched cancels facing error asked).mono
      (fun _ _ conduct => ⟨.inl rfl, conduct⟩) fun _ _ failing => failing
  · intro unasked
    apply Act.ensures_bind.mpr
    exact (thenLoop_conduct standing untouched cancels facing unasked (embarks h₁ facing untouched.record)).mono
      (fun _ _ conduct => ⟨.inl rfl, conduct⟩) fun _ _ failing => failing

/-- A failure ends the run if it has not ended, whatever its store makes of it. -/
theorem abort_conduct (failing : Failing k sound expected h h') (failure : Failure) :
    (abort s failure).Ensures h' (fun _ h'' => Conduct k sound expected h h'') fun _ _ => False := by
  cases failing with
  | ended conduct ended =>
    rw [Act.Ensures, abort_of_ended ended]
    exact conduct
  | lives standing unasked strands =>
    apply (abort_closed sound strands.fits strands.lives failure).mono _ fun _ _ none => none
    rintro - h'' ⟨⟨ended, noted, record⟩, closed⟩
    have own : h'.record.id = h.record.id := strands.travels.run.id
    have run : SameRun h'.record h''.record := record ▸ sameRun_abortedAt _ _ _ _
    have status : h''.record.status = .failed := by rw [record]; rfl
    have done : h''.record.isTerminal := by rw [Execution.isTerminal, status]; rfl
    have sense : sound → h''.record.WellFormed := fun _ => record ▸ .abortedAt _ _ _ _
    have stored : k.record h''.desk.world h.record.id = some h''.record ∨
        k.record h''.desk.world h.record.id = none ∧ h''.record.isTerminal := by
      rw [← own]
      rcases closed.stored with stored | ⟨-, lost⟩
      · exact .inl stored
      · exact .inr ⟨lost, done⟩
    exact .driven standing unasked ⟨strands.travels.trans (closed.travels run), by simp [status], by simp [status],
      fun _ => done, sense, stored⟩

end Whole

section Drive

variable {e : Execution} {d d' : Desk σ} {driven : Driven}

/-- A copy has been driven: what has become of it, what is answered, and that the claim has been given back. -/
structure Conducted (k : Chronicle s) (sound : Prop) (expected : Status) (e : Execution) (d : Desk σ)
    (driven : Driven) (d' : Desk σ) : Prop where
  idle : e.id ∉ d.active
  ends : ∃ h', Conduct k sound expected (claimed d e) h' ∧ driven.copy = h'.record ∧
    (driven.answer = h'.record ∨ k.record d.world e.id = some driven.answer) ∧
    d' = h'.desk.released e.id h'.record.isTerminal

theorem drive_conducted {opening : Act (Held σ) Bool} (valid : k.valid d.world) (idle : e.id ∉ d.active)
    (lives : expected.isTerminal = false) (error : sound → e.isTerminal = false → e.error = none)
    (embarks : ∀ h₁, Facing k expected h₁ → h₁.record = e →
      opening.Ensures h₁ (fun go h' => Embarks k sound h₁ h' go) fun _ => Falters k h₁) :
    (drive s e (unlessMoved s expected (thenLoop s limits opening))).Ensures { d with active := e.id :: d.active }
      (fun driven => Conducted k sound expected e d driven) fun _ _ => False := by
  have valid₀ : k.valid (claimed d e).desk.world := valid
  have claimed : (claimed d e).record.id ∈ (claimed d e).desk.active := by simp [claimed]
  apply ensures_drive.mpr
  apply Act.ensures_recover.mpr
  apply (unlessMoved_conduct valid₀ claimed lives error embarks).mono
  · rintro moved h' ⟨rfl | found, conduct⟩
    · exact ⟨idle, h', conduct, rfl, .inl rfl, rfl⟩
    · refine ⟨idle, h', conduct, rfl, ?_, rfl⟩
      cases moved with
      | none => exact .inl rfl
      | some stored => exact .inr found.symm
  · intro failure h' failing
    apply Act.ensures_bind.mpr
    apply (abort_conduct failing failure).mono _ fun _ _ none => none
    exact fun _ h'' conduct => ⟨idle, h'', conduct, rfl, .inl rfl, rfl⟩

/-- Starting a run takes a copy that is pending, and does not look at that. A copy that makes sense and does not wait
leads to records that make sense. -/
theorem start_conducted (limits : Limits) (valid : k.valid d.world) (e : Execution) : (start s limits e).Ensures d
    (fun driven => Conducted k (e.WellFormed ∧ e.status ≠ .waiting) .pending e d driven)
    fun _ d' => d' = d ∧ e.id ∈ d.active := by
  apply Act.ensures_bind.mpr
  apply ensures_claim.mpr
  by_cases busy : e.id ∈ d.active
  · rw [if_pos (by simpa using busy)]
    exact ⟨rfl, busy⟩
  · rw [if_neg (by simpa using busy), startBody_eq]
    apply (drive_conducted valid busy rfl _ _).mono (fun _ _ conducted => conducted) fun _ _ none => none.elim
    · exact fun driver => driver.1.error_eq
    · intro h₁ facing same
      exact begin_embarks facing fun driver => same ▸ driver

/-- Resuming a run takes a copy that waits, and any other is left alone. -/
theorem resume_conducted (limits : Limits) (valid : k.valid d.world) (e : Execution) (time : Option Instant)
    (context : Members) : (resume s limits e time context).Ensures d
    (fun driven d' => (driven = ⟨e, e⟩ ∧ d' = d) ∨
      e.status = .waiting ∧ Conducted k e.WellFormed .waiting e d driven d')
    fun _ _ => False := by
  unfold resume
  by_cases waits : e.status = .waiting
  · rw [if_neg (by simpa using waits)]
    apply Act.ensures_bind.mpr
    apply ensures_claim.mpr
    by_cases busy : e.id ∈ d.active
    · rw [if_pos (by simpa using busy)]
      exact .inl ⟨rfl, rfl⟩
    · rw [if_neg (by simpa using busy), resumeBody_now_eq]
      apply (drive_conducted valid busy rfl _ _).mono (fun _ _ conducted => .inr ⟨waits, conducted⟩)
        fun _ _ none => none
      · exact fun driver => driver.error_eq
      · intro h₁ facing same
        exact wake_embarks facing (same ▸ waits) (fun driver => same ▸ driver) _ context
  · rw [if_pos waits]
    exact .inl ⟨rfl, rfl⟩

namespace Conducted

variable (conducted : Conducted k sound expected e d driven d')

include conducted

/-- While a copy is driven, other runs change as they may meanwhile, and all versions that are stored are proper. -/
theorem accounts : Accounts k sound e.id d d' := by
  obtain ⟨h', conduct, -, -, rfl⟩ := conducted.ends
  have accounts : Accounts k sound e.id (claimed d e).desk h'.desk := conduct.travels.accounts
  have active : without e.id h'.desk.active = d.active := by
    rw [accounts.active]
    exact without_claimed conducted.idle
  refine ⟨⟨accounts.valid, active, accounts.drift, accounts.others, accounts.sent, accounts.kept⟩, ?_, accounts.written⟩
  intro run ne asked
  have kept := accounts.flags run ne asked
  show run ∈ if h'.record.isTerminal then without e.id h'.desk.cancels else h'.desk.cancels
  split
  · simpa [without] using ⟨kept, ne⟩
  · exact kept

theorem sameRun : SameRun e driven.copy := by
  obtain ⟨h', conduct, copy, -, -⟩ := conducted.ends
  rw [copy]
  exact conduct.travels.run

theorem answer : driven.answer = driven.copy ∨ k.record d.world e.id = some driven.answer := by
  obtain ⟨h', -, copy, answer, -⟩ := conducted.ends
  rw [copy]
  exact answer

/-- A copy that has ended takes the requests to cancel along. -/
theorem settled (ended : driven.copy.isTerminal) : e.id ∉ d'.cancels := by
  obtain ⟨h', -, copy, -, rfl⟩ := conducted.ends
  rw [copy] at ended
  simp [Desk.released, ended, without]

/-- A run whose stored record is in another state than expected is left alone. -/
theorem untouched {stored : Execution} (known : k.record d.world e.id = some stored)
    (differs : stored.status ≠ expected) : driven.copy = e ∧ k.Same d.world d'.world ∧
      k.notes d'.world = k.notes d.world ∧ (e.isTerminal = false → d'.cancels = d.cancels) := by
  obtain ⟨h', conduct, copy, -, rfl⟩ := conducted.ends
  cases conduct with
  | moved _ _ _ untouched cancels =>
    refine ⟨copy.trans untouched.record, untouched.same, untouched.notes, ?_⟩
    intro lives
    have same : h'.record.isTerminal = false := by rw [untouched.record]; exact lives
    show (if h'.record.isTerminal then _ else h'.desk.cancels) = d.cancels
    rw [same]
    exact cancels
  | idle standing => exact absurd (standing stored known) differs
  | obeyed standing => exact absurd (standing stored known) differs
  | driven standing => exact absurd (standing stored known) differs

/-- In the end the record is stored as the copy is, or it is lost with a copy that has ended, or nothing has changed. -/
theorem outcome : (driven.copy = e ∧ k.record d'.world = k.record d.world ∧ k.sent d'.world = k.sent d.world) ∨
    driven.copy.status ≠ .running ∧ driven.copy.status ≠ .pending ∧
      (k.record d'.world e.id = some driven.copy ∨ k.record d'.world e.id = none ∧ driven.copy.isTerminal) := by
  obtain ⟨h', conduct, copy, -, rfl⟩ := conducted.ends
  rw [copy]
  cases conduct with
  | moved _ _ _ untouched => exact .inl ⟨untouched.record, untouched.same.record, untouched.same.sent⟩
  | idle _ untouched => exact .inl ⟨untouched.record, untouched.same.record, untouched.same.sent⟩
  | obeyed _ obeyed =>
    obtain ⟨ended, noted, record⟩ := obeyed.record
    have status : h'.record.status = .cancelled := by rw [record]; rfl
    refine .inr ⟨by simp [status], by simp [status], ?_⟩
    rcases obeyed.stored with stored | ⟨-, lost⟩
    · exact .inl stored
    · exact .inr ⟨lost, obeyed.ended⟩
  | driven _ _ drives => exact .inr ⟨drives.rests, drives.begun, drives.stored⟩

/-- A run that has heard a request to stop in its log has ended when the drive is over. -/
theorem heard (more : k.heard d.world e.id < k.heard d'.world e.id) : driven.copy.isTerminal := by
  obtain ⟨h', conduct, copy, -, rfl⟩ := conducted.ends
  rw [copy]
  have quiet (notes : k.notes h'.desk.world = k.notes d.world) : h'.record.isTerminal := by
    have same : k.heard h'.desk.world e.id = k.heard d.world e.id := Chronicle.heard_same notes e.id
    exact absurd (same ▸ more) (Nat.lt_irrefl _)
  cases conduct with
  | moved _ _ _ untouched => exact quiet untouched.notes
  | idle _ untouched => exact quiet untouched.notes
  | obeyed _ obeyed => exact obeyed.ended
  | driven _ _ drives => exact drives.heard more

/-- A copy that made sense still does. -/
theorem wellFormed (driver : sound) (sense : e.WellFormed) : driven.copy.WellFormed := by
  obtain ⟨h', conduct, copy, -, -⟩ := conducted.ends
  rw [copy]
  cases conduct with
  | moved _ _ _ untouched => exact untouched.record ▸ sense
  | idle _ untouched => exact untouched.record ▸ sense
  | obeyed _ obeyed => exact obeyed.wellFormed sense
  | driven _ _ drives => exact drives.wellFormed driver

end Conducted

end Drive

end TriggerFlow.Run
