import TriggerFlow.Proofs.Run.Copies
import TriggerFlow.Proofs.Run.Operations
import TriggerFlow.Proofs.Run.Legs
import TriggerFlow.Proofs.Run.Stopped

/-!
# No request to cancel is lost

A request to cancel a run may come before the run is started, while it waits, from an entry in its log, or from anything
that happens while one of its actions, or one of another run, is carried out. A run that waits is cancelled at once. Any
other is asked to stop, and the request lasts until the run is looked at next. Then the run is cancelled, unless the leg
on which it has been asked has ended it, or has failed. Nothing is sent out for it after that leg, and nothing that is
done later brings it back.

Two things would: that its record is lost, and that it is started by a copy which has ended already.
-/

namespace TriggerFlow.Run

variable {σ : Type} {s : Surroundings σ} {k : Chronicle s} {limits : Limits} {id : String} {h h' u : Held σ}
  {d : Desk σ} {entry : Entry} {leg : Leg σ} {e : Execution}

section Ending

/-- How a run that is asked to stop on a leg ends: by itself if the leg ends it, by the failure of the leg, or else it
is cancelled where it stands. -/
inductive Concludes (e : Execution) : Except Failure Bool → Execution → Prop
  | itself (go : Bool) (ended : e.isTerminal) : Concludes e (.ok go) e
  | failed (failure : Failure) (lives : e.isTerminal = false) (ended noted : Instant) :
    Concludes e (.error failure) (abortedAt e failure.message ended noted)
  | cancelled (go : Bool) (lives : e.isTerminal = false) (ended noted : Instant) :
    Concludes e (.ok go) (cancelledAt e ended noted)

theorem Concludes.ended {result : Except Failure Bool} {e' : Execution} (concludes : Concludes e result e') :
    e'.isTerminal := by
  cases concludes with
  | itself _ ended => exact ended
  | failed => rfl
  | cancelled => rfl

/-- A run that is asked to stop has come to its end, in the store too if its record is there, and nothing has gone
out. -/
structure Ceases (k : Chronicle s) (result : Except Failure Bool) (h h' : Held σ) : Prop where
  record : Concludes h.record result h'.record
  sent : k.sent h'.desk.world = k.sent h.desk.world
  stored : k.record h'.desk.world h.record.id = some h'.record ∨ k.record h'.desk.world h.record.id = none

theorem Stays.ceases {sound : Prop} (stays : Stays k sound h h') (asked : h.record.id ∈ h.desk.cancels) :
    Ceases k (.ok true) h h' := by
  rcases stays.as_was with ⟨rfl, unasked⟩ | obeyed
  · have ended : h'.record.isTerminal := stays.station.ended stays.rests fun waits => unasked waits asked
    exact ⟨.itself _ ended, rfl, .inl stays.station.stored⟩
  · obtain ⟨ended, noted, record⟩ := obeyed.record
    have own : h'.record.id = h.record.id := obeyed.travels.run.id
    refine ⟨?_, obeyed.sent, .inl (own ▸ stays.station.stored)⟩
    rw [record]
    exact .cancelled true obeyed.lives ended noted

/-- A loop that is entered with a run that is asked to stop visits no node. -/
theorem loop_ceases {sound : Prop} (limits : Limits) (budget : Nat) (station : Station k sound h)
    (asked : h.record.id ∈ h.desk.cancels) :
    (loop s limits budget).Ensures h (fun _ h' => Ceases k (.ok true) h h') fun _ _ => False := by
  have looks : (mayVisit s).Ensures h (fun go h' => go = false ∧ Ceases k (.ok true) h h') fun _ _ => False := by
    apply (mayVisit_station station).mono _ fun _ _ none => none
    rintro (_ | _) h' spec
    · exact ⟨rfl, Stays.ceases spec asked⟩
    · exact absurd asked spec.2.2
  have stops {visits : Bool → Act (Held σ) Unit} (rests : visits false = pure ()) :
      (mayVisit s >>= visits).Ensures h (fun _ h' => Ceases k (.ok true) h h') fun _ _ => False := by
    apply Act.ensures_bind.mpr
    apply looks.mono _ fun _ _ none => none
    rintro _ h' ⟨rfl, ceases⟩
    rw [rests]
    exact ceases
  cases budget with
  | zero => exact stops rfl
  | succ budget => exact stops rfl

/-- What becomes of a run in hand after a leg, which stops at once if it is asked to by then. -/
structure Finishes (k : Chronicle s) (id : String) (leg : Leg σ) (h' : Held σ) : Prop where
  travels : Travels k False leg.after h'
  ceases : id ∈ leg.after.desk.cancels → Ceases k leg.result leg.after h'

/-- A failure ends a run that has been broken off. -/
theorem abort_ends (fits : Attending k h) (lives : h.record.isTerminal = false) (failure : Failure) :
    (abort s failure).Ensures h
      (fun _ h' => Travels k False h h' ∧ Ceases k (.error failure) h h') fun _ _ => False := by
  apply (abort_closed False fits lives failure).mono _ fun _ _ none => none
  rintro - h' ⟨⟨ended, noted, record⟩, closed⟩
  refine ⟨closed.travels (record ▸ sameRun_abortedAt _ _ _ _), ?_, closed.sent, closed.stored.imp_right And.right⟩
  rw [record]
  exact .failed failure lives ended noted

theorem Treads.finishes (treads : Treads k id leg) (budget : Nat) :
    ((leg.rest s limits budget).recover fun failure => do
      abort s failure
      pure none).Ensures leg.after (fun _ h' => Finishes k id leg h') fun _ _ => False := by
  have own : leg.after.record.id = id := treads.leads.sameRun.id.trans treads.own
  have fits := treads.fits
  have unasked := treads.unasked
  have leads := treads.leads
  obtain ⟨v, call, result, w⟩ := leg
  dsimp only at own fits unasked leads ⊢
  apply Act.ensures_recover.mpr
  cases leads with
  | goes advances =>
    have arrives : (loop s limits budget).Ensures w (fun _ => Arrives k False w) fun _ => Strands k False w :=
      loop_station budget advances.station
    apply Act.ensures_bind.mpr
    -- A loop that is entered with a request stops there; of any other it is enough to know what it leaves alone.
    by_cases asked : id ∈ w.desk.cancels
    · have ceases := loop_ceases limits budget advances.station (own ▸ asked)
      apply (arrives.and ceases).mono _ fun _ _ none => none.2.elim
      exact fun _ h' both => ⟨both.1.travels, fun _ => both.2⟩
    · apply arrives.mono
      · exact fun _ h' arrives => ⟨arrives.travels, fun again => absurd again asked⟩
      · intro failure h' strands
        apply Act.ensures_bind.mpr
        apply (abort_ends strands.fits strands.lives failure).mono _ fun _ _ none => none
        exact fun _ h'' both => ⟨strands.travels.trans both.1, fun again => absurd again asked⟩
  | rests same =>
    subst same
    exact ⟨.refl fits.valid, fun asked => absurd asked unasked⟩
  | ends advances ended =>
    exact ⟨.refl advances.station.valid, fun _ => ⟨.itself _ ended, rfl, .inl advances.station.stored⟩⟩
  | fails failure falters =>
    apply Act.ensures_bind.mpr
    cases falters with
    | ended ended same =>
      -- The copy had ended when it was taken up, so nothing has been done on the leg.
      subst same
      rw [Act.Ensures, abort_of_ended ended]
      exact ⟨.refl fits.valid, fun asked => absurd asked unasked⟩
    | lives attends lives =>
      apply (abort_ends attends.fits lives failure).mono _ fun _ _ none => none
      exact fun _ h' both => ⟨both.1, fun _ => both.2⟩

/-- A drive comes to what becomes of the run in hand after any of its legs. -/
theorem Takes.finishes (takes : Takes s limits entry (claimed d e) leg) (valid : k.valid d.world)
    (idle : e.id ∉ d.active) (admits : entry.Admits e) : (entry.enter s limits e).Ensures d
      (fun driven d' => ∃ h', Finishes k e.id leg h' ∧ driven.copy = h'.record ∧
        d' = h'.desk.released e.id h'.record.isTerminal) fun _ _ => False := by
  have treads : Treads k e.id leg := takes.treads valid (by simp [claimed]) admits
  obtain ⟨budget, rest⟩ := takes.rest
  rw [Act.ensures_of_eq (Entry.enter_eq limits idle admits)]
  apply ensures_drive.mpr
  have goesOn : ((entry.body s limits).recover fun failure => do
      abort s failure
      pure none) (claimed d e) = ((leg.rest s limits budget).recover fun failure => do
      abort s failure
      pure none) leg.after := by
    unfold Act.recover
    rw [rest]
  apply (Act.ensures_of_eq goesOn).mpr
  apply (treads.finishes budget).mono _ fun _ _ none => none
  exact fun moved h' finishes => ⟨h', finishes, rfl, rfl⟩

end Ending

section Interruption

/-- While the call of a leg is carried out, somebody asks for a run to be cancelled; `u` is what is in hand then. -/
inductive Interrupts (s : Surroundings σ) (id : String) (leg : Leg σ) (u : Held σ) : Prop
  | asks {call : Sending} {earlier later : List Action.Effect} (calls : leg.call = some call)
    (effects : (s.respond call leg.before.desk.world).1 = earlier ++ .cancel id :: later)
    (happened : happenAll s earlier (called s call leg.before) = (.ok (), u))

theorem happenAll_append (later : List Action.Effect) : ∀ earlier : List Action.Effect,
    happenAll s (earlier ++ later) = (do
      happenAll s earlier
      happenAll s later)
  | [] => (pure_bind () fun _ => happenAll s later).symm
  | effect :: rest => by
    rw [List.cons_append, happenAll, happenAll_append later rest, happenAll, bind_assoc]

/-- A run that is being driven is asked to stop and goes on for now. -/
theorem requestCancel_of_busy (busy : id ∈ d.active) : requestCancel s id d = (.ok none, d.flagged id) := by
  have claims : Desk.claim id d = (.ok false, d) := by
    rw [Desk.claim, if_pos (by simpa using busy)]
  rw [requestCancel, Act.bind_run_ok claims]
  rfl

/-- What is in hand when a request is made during a call. -/
theorem Interrupts.undergoes (interrupts : Interrupts s id leg u) (fits : Attending k leg.before) :
    k.valid u.desk.world ∧ u.desk.active = leg.before.desk.active ∧ u.record = leg.before.record := by
  obtain ⟨calls, effects, happened⟩ := interrupts
  rename_i call earlier later
  obtain ⟨valid, -⟩ := k.respond fits.valid call
  have passes := happenAll_spec (k := k.toLedger) earlier (h := called s call leg.before) valid fits.claimed
  have undergoes := passes.of_ok happened
  exact ⟨undergoes.valid, undergoes.active, undergoes.record⟩

/-- After a request that is made during a call, no more is sent out on the leg, and no request is taken up. -/
theorem Takes.still (takes : Takes s limits entry h leg) (fits : Attending k leg.before)
    (interrupts : Interrupts s id leg u) : Still k { u with desk := (requestCancel s id u.desk).2 } leg.after := by
  obtain ⟨valid, -, -⟩ := interrupts.undergoes fits
  obtain ⟨calls, effects, happened⟩ := interrupts
  rename_i call earlier later
  cases takes with
  | opens => cases calls
  | @visits v w result mem visited =>
    have asked := requestCancel_asked valid id
    obtain ⟨answer, d, run⟩ : ∃ answer d, requestCancel s id u.desk = (answer, d) := ⟨_, _, rfl⟩
    rw [run]
    have valid' : k.valid d.world := by
      cases answer with
      | error failure => exact (asked.of_error run).valid
      | ok _ => exact (asked.of_ok run).valid
    have caused : ∀ effect ∈ later, s.Causes effect := by
      intro effect mem
      refine ⟨call, v.desk.world, ?_⟩
      rw [effects]
      exact List.mem_append_right _ (List.mem_cons_of_mem _ mem)
    have goesOn : (Run.still k).Goes (happenAll s later) { u with desk := d } :=
      (Run.still k).goes_happenAll valid' caused
    have happens : (happenAll s (s.respond call v.desk.world).1).Ensures (called s call v)
        (fun _ => Still k { u with desk := d }) fun _ => Still k { u with desk := d } := by
      rw [effects, happenAll_append, Act.ensures_bind_of_ok happened]
      refine Act.ensures_bind.mpr (Act.ensures_bind.mpr (ensures_atDesk.mpr ?_))
      rw [Act.Ensures, run]
      cases answer with
      | error failure => exact (Run.still k).refl valid'
      | ok _ => exact goesOn
    have left := ((Run.still k).visit_of_call (still_merges k) limits calls happens).state
    rwa [visited] at left

/-- The run that is driven is asked to stop. -/
theorem Takes.flagged (takes : Takes s limits entry h leg) (treads : Treads k id leg)
    (interrupts : Interrupts s id leg u) : id ∈ leg.after.desk.cancels := by
  obtain ⟨-, active, record⟩ := interrupts.undergoes treads.fits
  have busy : id ∈ u.desk.active := by
    rw [active, ← treads.own]
    exact treads.fits.claimed
  have still := takes.still treads.fits interrupts
  rw [requestCancel_of_busy busy] at still
  exact still.flags id (mem_joined _ _)

/-- Another run is asked to stop, and stops where it is. -/
theorem Takes.stopped (takes : Takes s limits entry h leg) (treads : Treads k e.id leg) (ne : id ≠ e.id)
    (spares : s.Spares id) (interrupts : Interrupts s id leg u) {r : Execution}
    (stored : k.record u.desk.world id = some r)
    (ahead : r.status = .pending ∨ r.status = .waiting ∨ id ∈ u.desk.active) : Quiet k id u.desk leg.after.desk := by
  obtain ⟨valid, -, record⟩ := interrupts.undergoes treads.fits
  have still := takes.still treads.fits interrupts
  have quiet : Quiet k id u.desk (requestCancel s id u.desk).2 :=
    ((requestCancel_stops valid stored ahead).mono (fun _ _ quiet => quiet) fun _ _ none => none.elim).state
  have other : id ≠ u.record.id := by rwa [record, treads.own]
  have ⟨_, present, _⟩ := quiet.stopped
  have kept : k.record leg.after.desk.world id ≠ none := still.around.kept id spares (by simp [present])
  refine quiet.trans ⟨?_, ?_⟩
  · exact quiet.stopped.of_meanwhile (still.around.others id other) kept (still.flags id)
  · simp [Books.calls, still.sent]

end Interruption

section Heeding

/-- How a leg of the drive of a run heeds requests. Nobody asks the run to stop when the leg begins, and no more goes
out on it than the call of its node. A request that is made in the log of the run, or while that call is carried out,
is there when the leg is over; and then nothing goes out any more, and the run has come to its end when the drive is
over. -/
structure HeedsOn (k : Chronicle s) (limits : Limits) (entry : Entry) (d : Desk σ) (e : Execution) (leg : Leg σ) :
    Prop where
  unasked : e.id ∉ leg.before.desk.cancels
  sent : k.sent leg.after.desk.world = k.sent leg.before.desk.world ++ leg.call.toList
  heard : k.heard leg.before.desk.world e.id < k.heard leg.after.desk.world e.id → e.id ∈ leg.after.desk.cancels
  interrupted : ∀ u, Interrupts s e.id leg u → e.id ∈ leg.after.desk.cancels
  stops : e.id ∈ leg.after.desk.cancels → (entry.enter s limits e).Ensures d
    (fun driven d' => Concludes leg.after.record leg.result driven.copy ∧
      k.sent d'.world = k.sent leg.after.desk.world ∧ e.id ∉ d'.cancels ∧
      (k.record d.world e.id ≠ none → k.record d'.world e.id = some driven.copy)) fun _ _ => False

theorem Takes.heedsOn (takes : Takes s limits entry (claimed d e) leg) (spares : s.Spares e.id)
    (valid : k.valid d.world) (idle : e.id ∉ d.active) (admits : entry.Admits e) : HeedsOn k limits entry d e leg := by
  have treads : Treads k e.id leg := takes.treads valid (by simp [claimed]) admits
  refine ⟨treads.unasked, treads.sent, ?_, fun u => takes.flagged treads, ?_⟩
  · rw [← treads.own]
    exact treads.leads.heard
  · intro asked
    have drives := (takes.finishes valid idle admits).and (Entry.conducted limits valid idle admits)
    apply drives.mono _ fun _ _ none => none.2
    rintro driven d' ⟨⟨h', finishes, copy, desk⟩, conducted⟩
    have ceases := finishes.ceases asked
    have ended : driven.copy.isTerminal := copy ▸ ceases.record.ended
    refine ⟨copy ▸ ceases.record, by rw [desk]; exact ceases.sent, conducted.settled ended, ?_⟩
    intro present
    have kept : k.record d'.world e.id ≠ none := conducted.accounts.kept e.id spares present
    have own : leg.after.record.id = e.id := treads.leads.sameRun.id.trans treads.own
    have stored := ceases.stored
    rw [own] at stored
    rw [desk, copy]
    rw [desk] at kept
    exact stored.resolve_right kept

/-- A run that is asked to stop while another one is driven stays stopped to the end of that drive. -/
theorem Takes.quiet (takes : Takes s limits entry (claimed d e) leg) (spares : s.Spares id) (valid : k.valid d.world)
    (idle : e.id ∉ d.active) (admits : entry.Admits e) (ne : id ≠ e.id) (interrupts : Interrupts s id leg u)
    {r : Execution} (stored : k.record u.desk.world id = some r)
    (ahead : r.status = .pending ∨ r.status = .waiting ∨ id ∈ u.desk.active) :
    (entry.enter s limits e).Ensures d (fun _ d' => Quiet k id u.desk d') fun _ _ => False := by
  have treads : Treads k e.id leg := takes.treads valid (by simp [claimed]) admits
  have first : Quiet k id u.desk leg.after.desk := takes.stopped treads ne spares interrupts stored ahead
  have own : leg.after.record.id = e.id := treads.leads.sameRun.id.trans treads.own
  apply (takes.finishes valid idle admits).mono _ fun _ _ none => none
  rintro driven d' ⟨h', finishes, -, rfl⟩
  have drives : Quiet k id leg.after.desk h'.desk :=
    first.stopped.of_accounts spares (own ▸ ne) finishes.travels.accounts
  have same : k.Same h'.desk.world (h'.desk.released e.id h'.record.isTerminal).world :=
    ⟨finishes.travels.accounts.valid, rfl, rfl, k.drift_refl _⟩
  have flag : id ∈ h'.desk.cancels → id ∈ (h'.desk.released e.id h'.record.isTerminal).cancels := by
    intro flag
    show id ∈ if h'.record.isTerminal then without e.id h'.desk.cancels else h'.desk.cancels
    split
    · simpa [without] using ⟨flag, ne⟩
    · exact flag
  exact (first.trans drives).trans (drives.stopped.of_same same flag)

/-- What it is for requests to cancel a run to be heeded, however they come and whatever is done next. -/
structure Heeds (k : Chronicle s) (limits : Limits) (id : String) : Prop where
  /-- A run that waits, and that nobody drives, is cancelled at once; one that has not begun, or is driven, is asked to
  stop. -/
  accepts : ∀ {d r}, k.valid d.world → k.record d.world id = some r →
    r.status = .pending ∨ r.status = .waiting ∨ id ∈ d.active → (requestCancel s id).Ensures d
      (fun _ d' => Quiet k id d d' ∧
        if r.status = .waiting ∧ id ∉ d.active then
          ∃ ended noted, k.record d'.world id = some (cancelledAt r ended noted)
        else k.record d'.world id = some r ∧ id ∈ d'.cancels) fun _ _ => False
  /-- Whatever is done later, nothing goes out for the run. -/
  keeps : ∀ {d}, k.valid d.world → Stopped k id d → ∀ operations : List Operation,
    (∀ operation ∈ operations, operation.Spry id) → Quiet k id d (afterAll s limits operations d)
  /-- Nor does anything go out when more runs are found due. -/
  sweeps : ∀ {d}, k.valid d.world → Stopped k id d → ∀ found time context,
    (resumeEach s limits time context found).Ensures d (fun _ => Quiet k id d) fun _ => Quiet k id d
  /-- A copy that is taken up while the run is asked to stop is cancelled, and stored. -/
  begins : ∀ {d e r} {entry : Entry}, k.valid d.world → e.id = id → id ∉ d.active → entry.Admits e →
    e.isTerminal = false → id ∈ d.cancels → k.record d.world id = some r → r.status = entry.expected →
    (entry.enter s limits e).Ensures d
      (fun driven d' => (∃ ended noted, driven.copy = cancelledAt e ended noted) ∧
        k.record d'.world id = some driven.copy ∧ k.sent d'.world = k.sent d.world ∧ id ∉ d'.cancels) fun _ _ => False
  /-- A copy that is driven is stopped after the leg on which the run has been asked to stop. -/
  legs : ∀ {d e} {entry : Entry} {leg : Leg σ}, k.valid d.world → e.id = id → id ∉ d.active → entry.Admits e →
    Takes s limits entry (claimed d e) leg → HeedsOn k limits entry d e leg
  /-- So is the run if it is asked to stop while another one is driven. -/
  others : ∀ {d e r} {entry : Entry} {leg : Leg σ} {u : Held σ}, k.valid d.world → id ≠ e.id → e.id ∉ d.active →
    entry.Admits e → Takes s limits entry (claimed d e) leg → Interrupts s id leg u →
    k.record u.desk.world id = some r → r.status = .pending ∨ r.status = .waiting ∨ id ∈ u.desk.active →
    (entry.enter s limits e).Ensures d (fun _ d' => Quiet k id u.desk d') fun _ _ => False
  /-- A failure that ends a run sends nothing out. -/
  fails : ∀ {h : Held σ} {failure : Failure}, k.valid h.desk.world → (abort s failure).Ensures h
    (fun _ h' => k.sent h'.desk.world = k.sent h.desk.world) fun _ h' => k.sent h'.desk.world = k.sent h.desk.world
  /-- A drive on which an entry in the log of the run has been answered by a request ends the run, and a drive that ends
  it leaves no request behind. -/
  ends : ∀ {d e} {entry : Entry}, k.valid d.world → e.id = id → id ∉ d.active → entry.Admits e →
    (entry.enter s limits e).Ensures d
      (fun driven d' => (k.heard d.world id < k.heard d'.world id → driven.copy.isTerminal) ∧
        (driven.copy.isTerminal → id ∉ d'.cancels)) fun _ _ => False

/-- As long as its record is not lost, all requests to cancel a run are heeded. -/
theorem requests_heeded (k : Chronicle s) (limits : Limits) (spares : s.Spares id) : Heeds k limits id where
  accepts := by
    intro d r valid stored ahead
    apply ((requestCancel_stops valid stored ahead).and (requestCancel_answered valid id)).mono _ fun _ _ none => none.1
    rintro answer d' ⟨quiet, answered⟩
    refine ⟨quiet, ?_⟩
    cases answered with
    | driven busy =>
      rw [if_neg fun both => both.2 busy]
      exact ⟨stored, mem_joined _ _⟩
    | cancelled idle known waits ended noted now =>
      cases stored.symm.trans known
      rw [if_pos ⟨waits, idle⟩]
      exact ⟨ended, noted, now⟩
    | noted idle known pending same asked =>
      cases stored.symm.trans known
      rw [if_neg (by simp [pending]), same.record]
      exact ⟨stored, asked⟩
    | left idle known begun =>
      cases stored.symm.trans known
      rcases ahead with pending | waits | busy
      · exact absurd pending begun.2
      · exact absurd waits begun.1
      · exact absurd busy idle
  keeps valid stopped operations spry := stopped.afterAll spares limits operations valid spry
  sweeps valid stopped found time context := Stopped.resumeEach spares limits time context found valid stopped
  begins := by
    rintro d e r entry valid rfl idle admits lives asked stored standing
    apply (Entry.conducted limits valid idle admits).mono _ fun _ _ none => none
    intro driven d' conducted
    obtain ⟨⟨ended, noted, copy⟩, now, sent⟩ := conducted.cancelled asked lives stored standing
    have done : driven.copy.isTerminal := by rw [copy]; rfl
    exact ⟨⟨ended, noted, copy⟩, now, sent, conducted.settled done⟩
  legs := by
    rintro d e entry leg valid rfl idle admits takes
    exact takes.heedsOn spares valid idle admits
  others valid ne idle admits takes interrupts stored ahead :=
    takes.quiet spares valid idle admits ne interrupts stored ahead
  fails {h failure} valid :=
    ((still k).keeps_abort failure h valid).mono (fun _ _ still => still.sent) fun _ _ still => still.sent
  ends := by
    rintro d e entry valid rfl idle admits
    apply (Entry.conducted limits valid idle admits).mono _ fun _ _ none => none
    exact fun driven d' conducted => ⟨conducted.heard, conducted.settled⟩

end Heeding

end TriggerFlow.Run

namespace TriggerFlow.Trial

open TriggerFlow.Run

/-- A graph that sends two mails, one after the other. -/
def posting : Graph :=
  ⟨[⟨"begin", "", none, .trigger ⟨.manual, []⟩⟩,
    ⟨"mail", "", none, .action ⟨.sendEmail, [], false, none⟩⟩,
    ⟨"again", "", none, .action ⟨.sendEmail, [], false, none⟩⟩,
    ⟨"quit", "", none, .finish⟩],
   [⟨"a", "begin", "mail", none⟩, ⟨"b", "mail", "again", none⟩, ⟨"c", "again", "quit", none⟩], 1⟩

/-- A dispatcher that has the run cancelled whenever it is called. -/
def meddler : Action.Dispatcher Unit where
  respond _ _ state := ([.cancel "run"], .data .null, state)

abbrev meddling : Run.Surroundings (World Unit × List Note) :=
  (World.surroundings meddler none).noting (World.ledger meddler none).record

abbrev meddled : Run.Chronicle meddling := (World.ledger meddler none).chronicle

theorem meddling_visits : ((visitsOf meddling bounds Entry.start.expected (Entry.start.opening meddling)
    (claimed (unwritten (atNine posting)) (created posting))).map fun v => (callOf v.record).map Sending.nodeId) =
      [some "mail"] := by decide +kernel

/-- A run that is asked to stop while its first mail is sent is cancelled, and its second mail is not sent. -/
theorem meddled_heeded : meddling.Spares "run" ∧ meddled.valid (unwritten (atNine posting)).world ∧
    ∃ leg u, Takes meddling bounds .start (claimed (unwritten (atNine posting)) (created posting)) leg ∧
      leg.call.map Sending.nodeId = some "mail" ∧ Interrupts meddling "run" leg u ∧ "run" ∈ leg.after.desk.cancels ∧
      (Run.start meddling bounds (created posting)).Ensures (unwritten (atNine posting))
        (fun driven d' => Concludes leg.after.record leg.result driven.copy ∧
          meddled.record d'.world "run" = some driven.copy ∧ meddled.sent d'.world = meddled.sent leg.after.desk.world)
        fun _ _ => False := by
  have spares : meddling.Spares "run" := by
    intro sending w
    simp [Surroundings.noting, World.surroundings, meddler]
  have valid : meddled.valid (unwritten (atNine posting)).world := atNine_valid posting
  obtain ⟨v, single, calls⟩ := List.map_eq_singleton_iff.mp meddling_visits
  obtain ⟨call, makes, node⟩ := Option.map_eq_some_iff.mp calls
  let leg : Leg (World Unit × List Note) :=
    ⟨v, callOf v.record, (visit meddling bounds v).1.map fun _ => true, (visit meddling bounds v).2⟩
  have takes : Takes meddling bounds .start (claimed (unwritten (atNine posting)) (created posting)) leg :=
    .visits (single ▸ List.mem_singleton_self v) rfl
  have effects : (meddling.respond call v.desk.world).1 = [] ++ .cancel "run" :: [] := rfl
  have interrupts : Interrupts meddling "run" leg (called meddling call v) := .asks makes effects rfl
  have idle : "run" ∉ (unwritten (atNine posting)).active := by decide +kernel
  have admits : Entry.start.Admits (created posting) := trivial
  have heeds := (requests_heeded meddled bounds spares).legs valid rfl idle admits takes
  have asked := heeds.interrupted _ interrupts
  refine ⟨spares, valid, _, _, takes, calls, interrupts, asked, ?_⟩
  apply (heeds.stops asked).mono _ fun _ _ none => none
  rintro driven d' ⟨concludes, sent, -, stored⟩
  exact ⟨concludes, stored (by decide +kernel), sent⟩

/-- A desk with a run that waits before it sends a mail, and another one whose mails lose the record of the first. -/
def careless : Run.Desk (World Action.Script) :=
  ⟨[], [], ⟨⟨nine, 0, [],
    .memory ⟨[], [("run", created mailing), ("other", { created posting with id := "other" })], []⟩⟩,
    [("send-email", [⟨[.forget "run"], .data .null⟩])], []⟩⟩

abbrev losing : Run.Surroundings (World Action.Script) := World.surroundings Action.scripted none

abbrev lossy : Run.Ledger losing := World.ledger Action.scripted none

/-- Where records are lost, or where a copy that has ended is started, requests are lost. A run that has been cancelled
while it waited sends its mail after all when its record is lost and the copy that waited is resumed; and a run that has
been asked to stop before it began sends its mails when it is started, if a copy that has ended was started before. -/
theorem requests_lost :
    (let waiting := afterAll losing bounds [.start (created mailing)] careless
     let cancelled := afterAll losing bounds [.requestCancel "run"] waiting
     let copy := (lossy.record waiting.world "run").getD (created mailing)
     let resumed := afterAll losing bounds
      [.start { created posting with id := "other" }, .resume copy (nine.later? 60000000) []] cancelled
     (lossy.record cancelled.world "run").map Execution.status = some .cancelled ∧
      lossy.calls cancelled.world "run" = [] ∧ (lossy.calls resumed.world "run").map Sending.nodeId = ["mail"]) ∧
    (let asked := afterAll surroundings bounds [.requestCancel "run"] (atNine posting)
     let started := afterAll surroundings bounds
      [.start { created posting with status := .cancelled }, .start (created posting)] asked
     (books.record asked.world "run").map Execution.status = some .pending ∧ asked.cancels = ["run"] ∧
      books.calls asked.world "run" = [] ∧
      (books.calls started.world "run").map Sending.nodeId = ["mail", "again"]) := by
  decide +kernel

end TriggerFlow.Trial
