import TriggerFlow.Proofs.Run.Attending

/-!
# Between two visits

Between two visits of a drive the record in hand is the stored one, on any graph and whatever copy the drive has begun
with. A visit leads from one such station to the next, or it breaks off while the run still goes on. A request to cancel
is taken up at the stations and nowhere else, and a station that is left for a visit has none.
-/

namespace TriggerFlow.Run

variable {σ α : Type} {s : Surroundings σ} {k : Chronicle s} {sound : Prop} {limits : Limits} {h h' h'' : Held σ}

/-- A claimed run is stored as it is in hand; it makes sense if it has come from a copy that does. -/
structure Station (k : Chronicle s) (sound : Prop) (h : Held σ) : Prop where
  valid : k.valid h.desk.world
  claimed : h.record.id ∈ h.desk.active
  stored : k.record h.desk.world h.record.id = some h.record
  begun : h.record.status ≠ .pending
  wellFormed : sound → h.record.WellFormed

/-- The stored record of a claimed run, if there is one, is in a given state, which is no end. -/
structure Facing (k : Chronicle s) (expected : Status) (h : Held σ) : Prop where
  valid : k.valid h.desk.world
  claimed : h.record.id ∈ h.desk.active
  lives : expected.isTerminal = false
  standing : ∀ e, k.record h.desk.world h.record.id = some e → e.status = expected

theorem Facing.attending {expected : Status} (facing : Facing k expected h) : Attending k h := by
  refine ⟨facing.valid, facing.claimed, ?_⟩
  intro e present
  rw [Execution.isTerminal, facing.standing e present]
  exact facing.lives

theorem Station.facing (station : Station k sound h) (lives : h.record.isTerminal = false) :
    Facing k h.record.status h := by
  refine ⟨station.valid, station.claimed, lives, ?_⟩
  intro e present
  rw [station.stored] at present
  rw [Option.some.inj present]

theorem Station.attending (station : Station k sound h) (lives : h.record.isTerminal = false) : Attending k h :=
  (station.facing lives).attending

/-- A run has been driven from one state of things to another. -/
structure Travels (k : Chronicle s) (sound : Prop) (h h' : Held σ) : Prop where
  run : SameRun h.record h'.record
  accounts : Accounts k sound h.record.id h.desk h'.desk

namespace Travels

theorem refl (valid : k.valid h.desk.world) : Travels k sound h h := ⟨.refl _, .refl valid⟩

theorem trans (t : Travels k sound h h') (t' : Travels k sound h' h'') : Travels k sound h h'' :=
  ⟨t.run.trans t'.run, t.accounts.trans (t.run.id ▸ t'.accounts)⟩

theorem claimed (t : Travels k sound h h') (claimed : h.record.id ∈ h.desk.active) : h'.record.id ∈ h'.desk.active := by
  rw [t.run.id, t.accounts.active]
  exact claimed

end Travels

theorem Attends.travels (attends : Attends k h h') : Travels k sound h h' :=
  ⟨attends.run, attends.lasting.toAccounts.mono fun _ => trivial⟩

/-- What is in hand may change freely before it is stored. -/
theorem Attends.rerecord (attends : Attends k h h') {e : Execution} (run : SameRun h'.record e) :
    Attends k h { h' with record := e } := by
  have lasting : Lasting k True h'.record.id h'.desk h'.desk := .refl attends.fits.valid
  have kept : Attends k h' { h' with record := e } :=
    .of_stored attends.fits run lasting fun e present => ⟨e, present, .refl e⟩
  exact attends.trans kept

theorem Closed.travels (closed : Closed k sound h h') (run : SameRun h.record h'.record) : Travels k sound h h' :=
  ⟨run, closed.lasting.toAccounts⟩

theorem sameRun_cancelledAt (e : Execution) (ended noted : Instant) : SameRun e (cancelledAt e ended noted) :=
  ⟨rfl, rfl, rfl⟩

theorem sameRun_abortedAt (e : Execution) (message : String) (ended noted : Instant) :
    SameRun e (abortedAt e message ended noted) := ⟨rfl, rfl, rfl⟩

section Cancel

/-- What is in hand when a request to cancel the run has been taken up. -/
def consumed (h : Held σ) : Held σ :=
  { h with desk := { h.desk with cancels := without h.record.id h.desk.cancels } }

theorem ensures_consume {good : Bool → Held σ → Prop} {bad : Failure → Held σ → Prop}
    (asked : h.record.id ∈ h.desk.cancels → good true (consumed h))
    (unasked : h.record.id ∉ h.desk.cancels → good false h) : (consumeCancel).Ensures h good bad := by
  refine ensures_consumeCancel.mpr ?_
  by_cases mem : h.record.id ∈ h.desk.cancels
  · rw [if_pos (by simpa using mem)]
    exact asked mem
  · rw [if_neg (by simpa using mem)]
    exact unasked mem

theorem Attending.consumed (fits : Attending k h) : Attending k (consumed h) := ⟨fits.valid, fits.claimed, fits.lives⟩

/-- A request that is taken up concerns the run in hand alone. -/
theorem travels_consumed (valid : k.valid h.desk.world) : Travels k sound h (consumed h) where
  run := .refl _
  accounts := by
    refine .of_same rfl ?_ ⟨valid, rfl, rfl, k.drift_refl _⟩ rfl
    intro run ne asked
    simpa [Run.consumed, without] using ⟨asked, ne⟩

/-- A request to cancel has been taken up, and the run has been cancelled where it stood, in the store too if its record
is there. -/
structure Obeyed (k : Chronicle s) (sound : Prop) (h h' : Held σ) : Prop where
  travels : Travels k sound h h'
  asked : h.record.id ∈ h.desk.cancels
  lives : h.record.isTerminal = false
  record : ∃ ended noted, h'.record = cancelledAt h.record ended noted
  sent : k.sent h'.desk.world = k.sent h.desk.world
  stored : k.record h'.desk.world h.record.id = some h'.record ∨
    k.record h.desk.world h.record.id = none ∧ k.record h'.desk.world h.record.id = none

/-- A run that is asked to stop is cancelled. This fails when its record is lost, and then the copy in hand is
cancelled all the same. -/
theorem cancel_obeyed (sound : Prop) (fits : Attending k h) (asked : h.record.id ∈ h.desk.cancels)
    (lives : h.record.isTerminal = false) (error : sound → h.record.error = none) : (cancel s).Ensures (consumed h)
      (fun _ h' => Obeyed k sound h h' ∧ k.record h'.desk.world h.record.id = some h'.record)
      (fun _ h' => Obeyed k sound h h' ∧ k.record h.desk.world h.record.id = none) := by
  have obeys {h' : Held σ} (record : ∃ ended noted, h'.record = cancelledAt h.record ended noted)
      (closed : Closed k sound (consumed h) h') : Obeyed k sound h h' := by
    have run : SameRun h.record h'.record := by
      obtain ⟨ended, noted, same⟩ := record
      exact same ▸ sameRun_cancelledAt _ _ _
    exact ⟨(travels_consumed fits.valid).trans (closed.travels run), asked, lives, record, closed.sent, closed.stored⟩
  have can : h.record.status.canBecome .cancelled := Status.canEnd lives (.inl rfl)
  apply (cancel_closed sound fits.consumed can fun driver _ => error driver).mono
  · rintro - h' ⟨record, stored, closed⟩
    exact ⟨obeys record closed, stored⟩
  · rintro _ h' ⟨record, missing, closed⟩
    exact ⟨obeys record closed, missing⟩

end Cancel

section MayVisit

/-- A run that is not to be visited has been left as it was, with no request to cancel if it waits, or it has been
cancelled because there was one. -/
structure Stays (k : Chronicle s) (sound : Prop) (h h' : Held σ) : Prop where
  station : Station k sound h'
  rests : h'.record.status ≠ .running
  as_was : h' = h ∧ (h.record.status = .waiting → h.record.id ∉ h.desk.cancels) ∨ Obeyed k sound h h'

theorem Obeyed.ended (obeyed : Obeyed k sound h h') : h'.record.isTerminal := by
  obtain ⟨ended, noted, record⟩ := obeyed.record
  rw [record]
  rfl

theorem Obeyed.wellFormed (obeyed : Obeyed k sound h h') (sense : h.record.WellFormed) : h'.record.WellFormed := by
  obtain ⟨ended, noted, record⟩ := obeyed.record
  rw [record]
  exact .cancelledAt (sense.error_eq obeyed.lives) ended noted

theorem Obeyed.stays (station : Station k sound h) (obeyed : Obeyed k sound h h')
    (stored : k.record h'.desk.world h.record.id = some h'.record) : Stays k sound h h' := by
  obtain ⟨ended, noted, record⟩ := obeyed.record
  have status : h'.record.status = .cancelled := by rw [record]; rfl
  have own : h'.record.id = h.record.id := obeyed.travels.run.id
  have arrived : Station k sound h' := ⟨obeyed.travels.accounts.valid, obeyed.travels.claimed station.claimed,
    by rw [own, stored], by simp [status], fun driver => obeyed.wellFormed (station.wellFormed driver)⟩
  exact ⟨arrived, by simp [status], .inr obeyed⟩

/-- A station that is asked to stop is cancelled, and nothing keeps it from being. -/
theorem cancel_stays (station : Station k sound h) (asked : h.record.id ∈ h.desk.cancels)
    (lives : h.record.isTerminal = false) : (cancel s).Ensures (consumed h)
      (fun _ h' => Stays k sound h h') fun _ _ => False := by
  have error : sound → h.record.error = none := fun driver => (station.wellFormed driver).error_eq lives
  apply (cancel_obeyed sound (station.attending lives) asked lives error).mono
  · exact fun _ h' ⟨obeyed, stored⟩ => obeyed.stays station stored
  · intro _ h' ⟨_, missing⟩
    rw [station.stored] at missing
    cases missing

/-- A run is visited while it is running and nobody has asked it to stop. -/
theorem mayVisit_station (station : Station k sound h) : (mayVisit s).Ensures h
    (fun go h' => if go then h' = h ∧ h.record.status = .running ∧ h.record.id ∉ h.desk.cancels
      else Stays k sound h h') fun _ _ => False := by
  refine Act.ensures_bind.mpr (ensures_current.mpr ?_)
  by_cases running : h.record.status = .running
  · rw [if_neg (by simpa using running)]
    apply Act.ensures_bind.mpr
    apply ensures_consume
    · intro asked
      have lives := Execution.lives_of_running running
      exact Act.ensures_bind.mpr ((cancel_stays station asked lives).mono (fun _ _ stays => stays) fun _ _ none => none)
    · intro unasked
      exact ⟨rfl, running, unasked⟩
  · rw [if_pos running]
    refine Act.ensures_bind.mpr (Act.ensures_bind.mpr (ensures_current.mpr ?_))
    by_cases waits : h.record.status = .waiting
    · rw [if_pos waits]
      apply Act.ensures_bind.mpr
      apply ensures_consume
      · intro asked
        exact cancel_stays station asked (Execution.lives_of_waiting waits)
      · intro unasked
        exact ⟨station, running, .inl ⟨rfl, fun _ => unasked⟩⟩
    · rw [if_neg waits]
      exact ⟨station, running, .inl ⟨rfl, fun same => absurd same waits⟩⟩

end MayVisit

section Visit

/-- A drive leads from one state of things to a station, and what has been asked stays asked. -/
structure Advances (k : Chronicle s) (sound : Prop) (h h' : Held σ) : Prop where
  station : Station k sound h'
  run : SameRun h.record h'.record
  lasting : Lasting k sound h.record.id h.desk h'.desk

/-- A visit has been broken off while the run goes on, and nothing has been asked in vain. -/
structure BreaksOff (k : Chronicle s) (h h' : Held σ) : Prop where
  attends : Attends k h h'
  running : h'.record.status = .running

theorem Advances.travels (advances : Advances k sound h h') : Travels k sound h h' :=
  ⟨advances.run, advances.lasting.toAccounts⟩

/-- Where the record in hand may come next and makes sense, storing it makes a station. -/
theorem persist_advances {expected : Status} (facing : Facing k expected h) (attends : Attends k h h')
    (path : Status.LeadsTo expected h'.record.status) (begun : h'.record.status ≠ .pending)
    (sense : sound → h'.record.WellFormed) : (persist s).Ensures h'
      (fun _ h'' => h''.record = h'.record ∧ Advances k sound h h'') fun _ _ => False := by
  have own : h'.record.id = h.record.id := attends.run.id
  have proper : Proper sound (k.record h'.desk.world h'.record.id) h'.record := by
    refine ⟨fun _ => begun, attends.fits.lives, ?_, fun driver _ => sense driver⟩
    intro e' present
    obtain ⟨e, known, on⟩ := attends.stored e' (by rwa [← own])
    rw [on.status, facing.standing e known]
    exact path
  apply (persist_lasting attends.fits.valid proper).mono _ fun _ _ none => none
  rintro - h'' ⟨same, -, stored, lasting⟩
  have claimed : h''.record.id ∈ h''.desk.active := by
    rw [same, lasting.active]
    exact attends.fits.claimed
  have station : Station k sound h'' := ⟨lasting.valid, claimed, by rw [same, stored], same ▸ begun, same ▸ sense⟩
  have all : Lasting k sound h.record.id h.desk h''.desk :=
    (attends.lasting.mono fun _ => trivial).trans (own ▸ lasting)
  exact ⟨same, station, same ▸ attends.run, all⟩

/-- Goes to the node that the work has named, if it has named one, and stores the record. -/
theorem goOn_advances {expected : Status} (next : Option String) (facing : Facing k expected h)
    (attends : Attends k h h') (path : Status.LeadsTo expected h'.record.status)
    (begun : h'.record.status ≠ .pending) (sense : sound → (headed next h'.record).WellFormed) :
    (goOn s next).Ensures h'
      (fun _ h'' => h''.record.status = h'.record.status ∧ Advances k sound h h'') fun _ _ => False := by
  have named : Attends k h { h' with record := headed next h'.record } := attends.rerecord (sameRun_headed _ _)
  have stored : (persist s).Ensures { h' with record := headed next h'.record }
      (fun _ h'' => h''.record.status = h'.record.status ∧ Advances k sound h h'') fun _ _ => False := by
    apply (persist_advances facing named (by simpa using path) (by simpa using begun) sense).mono _ fun _ _ none => none
    exact fun _ _ ⟨same, advances⟩ => ⟨by rw [same, headed_status], advances⟩
  cases next with
  | none => exact stored
  | some id => exact Act.ensures_bind.mpr stored

/-- What a turn at a node has come to is stored. -/
theorem goOn_turned {expected : Status} {node : Node} {next : Option String} {e : Execution}
    (facing : Facing k expected h) (attends : Attends k h h') (turned : Turned node e next h'.record)
    (running : e.status = .running) (path : Status.LeadsTo expected .running) (at_ : e.At node)
    (sense : sound → e.WellFormed) : (goOn s next).Ensures h'
      (fun _ h'' => h''.record.status = h'.record.status ∧ Advances k sound h h'') fun _ _ => False := by
  have moves := turned.path running
  rw [running] at moves
  apply goOn_advances next facing attends
  · rcases moves with goes | moves
    · rw [goes]
      exact path
    · exact path.tail moves
  · rcases moves with goes | moves
    · simp [goes]
    · intro pending
      rw [pending] at moves
      cases moves
  · exact fun driver => turned.wellFormed (sense driver) running at_

/-- The run comes to an end at an end node. -/
theorem finish_station {node : Node} (station : Station k sound h) (running : h.record.status = .running)
    (at_ : h.record.At node) (task : node.task = .finish) :
    (finish s node).Ensures h (fun _ => Advances k sound h) fun _ => BreaksOff k h := by
  have lives := Execution.lives_of_running running
  have noted := (log_attends (station.attending lives) node.id (if node.label = "" then "End" else node.label) .success
    "Workflow completed" none).and (log_record node.id (if node.label = "" then "End" else node.label) .success
    "Workflow completed" none)
  apply Act.ensures_bind.mpr
  apply noted.mono
  · rintro - h₁ ⟨attends, record⟩
    have can : h₁.record.status.canBecome .completed := by
      rw [record]
      exact congrArg (fun status => status.canBecome .completed) running
    simp only [Act.ensures_bind, ensures_become, Execution.become?, can, if_true, Status.isTerminal,
      Option.some.injEq, forall_eq', reduceCtorEq, false_implies, and_true]
    have done : Attends k h ({ h₁ with record := { h₁.record with
        status := .completed, completedAt := some (s.now h₁.desk.world), wait := none } } : Held σ) :=
      attends.rerecord ⟨rfl, rfl, rfl⟩
    have path : Status.LeadsTo h.record.status .completed := .of_move (by rw [running]; rfl)
    have sense : sound → ({ h₁.record with
        status := .completed, completedAt := some (s.now h₁.desk.world), wait := none } : Execution).WellFormed := by
      intro driver
      rw [record]
      exact (station.wellFormed driver).finished running at_ task ⟨rfl, rfl, rfl, rfl⟩ _
    apply (persist_advances (station.facing lives) done path (by simp) sense).mono _ fun _ _ none => none.elim
    exact fun _ _ spec => spec.2
  · rintro _ h₁ ⟨attends, record⟩
    exact ⟨attends, by rw [record]; exact running⟩

theorem visit_station (limits : Limits) (station : Station k sound h) (running : h.record.status = .running) :
    (visit s limits).Ensures h (fun _ => Advances k sound h) fun _ => BreaksOff k h := by
  have lives := Execution.lives_of_running running
  have fits := station.attending lives
  have halts : BreaksOff k h h := ⟨.refl fits, running⟩
  have goesOn {node : Node} {x : Act (Held σ) (Option String)} (at_ : h.record.At node)
      (keeps : (attending k).Keeps x) (turns : x.Ensures h (fun next h' => Turned node h.record next h'.record)
        fun _ h' => Onward h.record h'.record) :
      (x >>= goOn s).Ensures h (fun _ => Advances k sound h) fun _ => BreaksOff k h := by
    apply Act.ensures_bind.mpr
    apply (turns.and (keeps h fits)).mono
    · rintro next h₁ ⟨turned, attends⟩
      have path : Status.LeadsTo h.record.status .running := running ▸ .refl _
      apply (goOn_turned (station.facing lives) attends turned running path at_ station.wellFormed).mono
      · exact fun _ _ spec => spec.2
      · exact fun _ _ none => none.elim
    · rintro _ h₁ ⟨on, attends⟩
      exact ⟨attends, on.status.trans running⟩
  unfold visit
  refine Act.ensures_bind.mpr (Act.ensures_bind.mpr (ensures_current.mpr ?_))
  cases at_ : h.record.nodeId.bind h.record.graph.node? with
  | none => exact halts
  | some node =>
    refine Act.ensures_pure.mpr ?_
    split
    · rename_i a task
      cases parks : a.kind.parks with
      | true => exact goesOn at_ ((attending k).keeps_park node a) (park_turned node a task parks running)
      | false => exact goesOn at_ ((attending k).keeps_perform limits node a) (perform_turned limits node a running)
    · rename_i expression task
      exact goesOn at_ ((attending k).keeps_decide node expression) (decide_turned node expression running)
    · rename_i task
      exact finish_station station running at_ task
    · exact halts

end Visit

/-- The visits of a drive have come to rest at a station. A run that has been asked to stop does not rest before it has
ended. -/
structure Arrives (k : Chronicle s) (sound : Prop) (h h' : Held σ) : Prop where
  station : Station k sound h'
  travels : Travels k sound h h'
  rests : h'.record.status ≠ .running
  asked : h.record.id ∈ h.desk.cancels → h'.record.isTerminal
  heard : k.heard h.desk.world h.record.id < k.heard h'.desk.world h.record.id → h'.record.isTerminal

/-- The visits of a drive have been broken off while the run lives. -/
structure Strands (k : Chronicle s) (sound : Prop) (h h' : Held σ) : Prop where
  fits : Attending k h'
  travels : Travels k sound h h'
  lives : h'.record.isTerminal = false

theorem Attends.strands (attends : Attends k h h') (lives : h'.record.isTerminal = false) : Strands k sound h h' :=
  ⟨attends.fits, attends.travels, lives⟩

/-- A station that rests and does not wait has ended. -/
theorem Station.ended (station : Station k sound h) (rests : h.record.status ≠ .running)
    (awake : h.record.status ≠ .waiting) : h.record.isTerminal := by
  have begun := station.begun
  rw [Execution.isTerminal]
  cases status : h.record.status <;> simp_all [Status.isTerminal]

theorem Stays.arrives (stays : Stays k sound h h') : Arrives k sound h h' := by
  rcases stays.as_was with ⟨rfl, unasked⟩ | obeyed
  · refine ⟨stays.station, .refl stays.station.valid, stays.rests, ?_, ?_⟩
    · intro asked
      apply stays.station.ended stays.rests
      exact fun waits => unasked waits asked
    · exact fun more => absurd more (Nat.lt_irrefl _)
  · exact ⟨stays.station, obeyed.travels, stays.rests, fun _ => obeyed.ended, fun _ => obeyed.ended⟩

/-- What is asked on the way to a station is still asked there. -/
theorem Advances.arrives (advances : Advances k sound h h') (arrives : Arrives k sound h' h'') :
    Arrives k sound h h'' := by
  have own := advances.run.id
  have asked : h.record.id ∈ h'.desk.cancels → h''.record.isTerminal := fun asked => arrives.asked (by rwa [own])
  refine ⟨arrives.station, advances.travels.trans arrives.travels, arrives.rests, ?_, ?_⟩
  · exact fun before => asked (advances.lasting.flag before)
  · intro more
    by_cases first : k.heard h.desk.world h.record.id < k.heard h'.desk.world h.record.id
    · exact asked (advances.lasting.heard _ first)
    · apply arrives.heard
      rw [own]
      omega

/-- The visits go on from station to station, as the budget counts down. -/
theorem loop_station : ∀ (budget : Nat) {h : Held σ}, Station k sound h →
    (loop s limits budget).Ensures h (fun _ => Arrives k sound h) fun _ => Strands k sound h
  | 0, h, station => by
    apply Act.ensures_bind.mpr
    apply (mayVisit_station station).mono _ fun _ _ none => none.elim
    rintro (_ | _) h₁ spec
    · exact Stays.arrives spec
    · obtain ⟨rfl, running, -⟩ := spec
      have lives := Execution.lives_of_running running
      exact ⟨station.attending lives, .refl station.valid, lives⟩
  | budget + 1, h, station => by
    apply Act.ensures_bind.mpr
    apply (mayVisit_station station).mono _ fun _ _ none => none.elim
    rintro (_ | _) h₁ spec
    · exact Stays.arrives spec
    obtain ⟨rfl, running, -⟩ := spec
    apply Act.ensures_bind.mpr
    apply (visit_station limits station running).mono
    · intro _ h₂ advances
      apply (loop_station budget advances.station).mono
      · exact fun _ _ arrives => advances.arrives arrives
      · exact fun _ _ strands => ⟨strands.fits, advances.travels.trans strands.travels, strands.lives⟩
    · exact fun _ h₂ breaks => breaks.attends.strands (Execution.lives_of_running breaks.running)

end TriggerFlow.Run
