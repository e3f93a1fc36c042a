import TriggerFlow.Proofs.Run.Tally

/-!
# The legs of a drive

A drive is made of legs: the opening that takes a run up, and the visits that follow. A leg begins where nobody asks the
run to stop, and requests are looked at again only when it is over. It sends out the call of its node and nothing else.
What comes after it depends on how things stand at its end, and on nothing before that.
-/

namespace TriggerFlow.Run

variable {σ : Type} {s : Surroundings σ} {k : Chronicle s} {limits : Limits} {h h' h'' v w : Held σ}

section Visits

variable {sound : Prop} {expected : Status} {opening : Act (Held σ) Bool}

/-- A loop that visits a node goes on from there. -/
theorem loop_of_visits : ∀ {budget : Nat} {h : Held σ}, v ∈ visits s limits budget h →
    ∃ rest, loop s limits budget h = (do
      visit s limits
      loop s limits rest) v
  | 0, _, mem => nomatch mem
  | budget + 1, h, mem => by
    rcases goes : mayVisit s h with ⟨_ | _ | _, h'⟩
    · simp [visits, goes] at mem
    · simp [visits, goes] at mem
    have here : loop s limits (budget + 1) h = (do
        visit s limits
        loop s limits budget) h' := Act.bind_run_ok goes _
    rcases visited : visit s limits h' with ⟨_ | _, h''⟩
    · rw [visits_of_failure goes visited] at mem
      exact ⟨budget, List.mem_singleton.mp mem ▸ here⟩
    · rw [visits_of_visit goes visited] at mem
      rcases List.mem_cons.mp mem with same | later
      · exact ⟨budget, same ▸ here⟩
      · obtain ⟨rest, goesOn⟩ := loop_of_visits later
        exact ⟨rest, by rw [here, Act.bind_run_ok visited, goesOn]⟩

/-- The states in which nodes are visited are stations of a running run that nobody has asked to stop. -/
theorem visits_station : ∀ {budget : Nat} {h : Held σ}, Station k sound h → v ∈ visits s limits budget h →
    Station k sound v ∧ v.record.status = .running ∧ v.record.id = h.record.id ∧ v.record.id ∉ v.desk.cancels
  | 0, _, _, mem => nomatch mem
  | budget + 1, h, station, mem => by
    have may := mayVisit_station station
    rcases goes : mayVisit s h with ⟨_ | _ | _, h'⟩
    · simp [visits, goes] at mem
    · simp [visits, goes] at mem
    obtain ⟨rfl, running, unasked⟩ := may.of_ok goes
    rcases visited : visit s limits h' with ⟨_ | _, h''⟩
    · rw [visits_of_failure goes visited] at mem
      obtain rfl := List.mem_singleton.mp mem
      exact ⟨station, running, rfl, unasked⟩
    · rw [visits_of_visit goes visited] at mem
      rcases List.mem_cons.mp mem with rfl | later
      · exact ⟨station, running, rfl, unasked⟩
      · have advances := (visit_station limits station running).of_ok visited
        obtain ⟨station', running', own, unasked'⟩ := visits_station advances.station later
        exact ⟨station', running', own.trans advances.run.id, unasked'⟩

end Visits

/-- A leg of a drive. -/
structure Leg (σ : Type) where
  before : Held σ
  /-- What is sent out on it. -/
  call : Option Sending
  /-- Whether there are to be more visits, if it has not failed. -/
  result : Except Failure Bool
  after : Held σ

/-- The legs of the drive of what is in hand. If the stored record has moved on, or somebody has asked to cancel the
run, there are none. -/
inductive Takes (s : Surroundings σ) (limits : Limits) (entry : Entry) (h : Held σ) : Leg σ → Prop
  | opens {h' h'' w : Held σ} {result : Except Failure Bool} (unmoved : movedOn s entry.expected h = (.ok none, h'))
    (unasked : consumeCancel h' = (.ok false, h'')) (opened : entry.opening s h'' = (result, w)) :
    Takes s limits entry h ⟨h'', none, result, w⟩
  | visits {v w : Held σ} {result : Except Failure Unit}
    (mem : v ∈ visitsOf s limits entry.expected (entry.opening s) h) (visited : visit s limits v = (result, w)) :
    Takes s limits entry h ⟨v, callOf v.record, result.map fun _ => true, w⟩

/-- What is left of a drive after a leg. -/
def Leg.rest (s : Surroundings σ) (limits : Limits) (budget : Nat) (leg : Leg σ) : Act (Held σ) (Option Execution) :=
  match leg.result with
  | .error failure => Act.fail failure
  | .ok go => do
    if go then loop s limits budget
    return none

/-- How a leg turns out. -/
inductive Leads (k : Chronicle s) (h h' : Held σ) : Except Failure Bool → Prop
  | goes (advances : Advances k False h h') : Leads k h h' (.ok true)
  | rests (same : h' = h) : Leads k h h' (.ok false)
  | ends (advances : Advances k False h h') (ended : h'.record.isTerminal) : Leads k h h' (.ok false)
  | fails (failure : Failure) (falters : Falters k h h') : Leads k h h' (.error failure)

theorem Embarks.leads {go : Bool} (embarks : Embarks k False h h' go) : Leads k h h' (.ok go) := by
  cases embarks with
  | goes advances _ => exact .goes advances
  | rests same => exact .rests same
  | fails advances failed => exact .ends advances (by rw [Execution.isTerminal, failed]; rfl)

theorem Leads.sameRun {result : Except Failure Bool} (leads : Leads k h h' result) : SameRun h.record h'.record := by
  cases leads with
  | goes advances => exact advances.run
  | rests same => exact same ▸ .refl _
  | ends advances _ => exact advances.run
  | fails _ falters =>
    cases falters with
    | ended _ same => exact same ▸ .refl _
    | lives attends _ => exact attends.run

/-- A request that is made in the log of a run on a leg is still there when the leg is over. -/
theorem Leads.heard {result : Except Failure Bool} (leads : Leads k h h' result)
    (more : k.heard h.desk.world h.record.id < k.heard h'.desk.world h.record.id) : h.record.id ∈ h'.desk.cancels := by
  have unchanged (same : h' = h) : h.record.id ∈ h'.desk.cancels := by
    rw [same] at more
    exact absurd more (Nat.lt_irrefl _)
  cases leads with
  | goes advances => exact advances.lasting.heard _ more
  | rests same => exact unchanged same
  | ends advances _ => exact advances.lasting.heard _ more
  | fails _ falters =>
    cases falters with
    | ended _ same => exact unchanged same
    | lives attends _ => exact attends.lasting.heard _ more

/-- On a leg a run is attended to, from a moment at which nobody asks it to stop. -/
structure Treads (k : Chronicle s) (id : String) (leg : Leg σ) : Prop where
  fits : Attending k leg.before
  own : leg.before.record.id = id
  unasked : id ∉ leg.before.desk.cancels
  leads : Leads k leg.before leg.after leg.result
  sent : k.sent leg.after.desk.world = k.sent leg.before.desk.world ++ leg.call.toList

section Takes

variable {entry : Entry} {leg : Leg σ} {e : Execution} {d : Desk σ}

/-- A drive comes from each of its legs to all that is left after it. -/
theorem Takes.rest (takes : Takes s limits entry h leg) : ∃ budget,
    entry.body s limits h = leg.rest s limits budget leg.after := by
  have enters {h' h'' : Held σ} (unmoved : movedOn s entry.expected h = (.ok none, h'))
      (unasked : consumeCancel h' = (.ok false, h'')) : entry.body s limits h =
        (do
          thenLoop s limits (entry.opening s)
          return none) h'' := by
    rw [Entry.body, unlessMoved, Act.bind_run_ok unmoved]
    exact Act.bind_run_ok unasked _
  cases takes with
  | @opens h' h'' w result unmoved unasked opened =>
    refine ⟨limits.steps.toNat, ?_⟩
    rw [enters unmoved unasked, thenLoop, bind_assoc]
    cases result with
    | error failure => exact Act.bind_run_error opened _
    | ok go =>
      rw [Act.bind_run_ok opened]
      cases go <;> rfl
  | @visits v w result mem visited =>
    obtain ⟨h', h'', h₁, unmoved, unasked, opened, later⟩ := exists_opening mem
    obtain ⟨budget, goesOn⟩ := loop_of_visits later
    refine ⟨budget, ?_⟩
    rw [enters unmoved unasked, thenLoop, bind_assoc, Act.bind_run_ok opened, if_pos rfl, Act.bind_apply, goesOn,
      ← Act.bind_apply, bind_assoc]
    cases result with
    | error failure => exact Act.bind_run_error visited _
    | ok _ =>
      rw [Act.bind_run_ok visited]
      rfl

/-- The opening of a drive begins with what was in hand, if the stored record is where it is expected. -/
theorem facing_of_unmoved (valid : k.valid h.desk.world) (claimed : h.record.id ∈ h.desk.active)
    (unmoved : movedOn s entry.expected h = (.ok none, h')) (unasked : consumeCancel h' = (.ok false, h'')) :
    Facing k entry.expected h'' ∧ h''.record = h.record ∧ h''.record.id ∉ h''.desk.cancels := by
  obtain ⟨found, untouched, -⟩ := (movedOn_untouched (k := k) entry.expected valid).of_ok unmoved
  have standing : ∀ e, k.record h.desk.world h.record.id = some e → e.status = entry.expected := by
    intro e known
    have kept := Option.filter_eq_none_iff.mp found.symm e known
    simpa using kept
  have stays : (consumeCancel).Ensures h' (fun asked h'' => asked = false → h'' = h' ∧ h'.record.id ∉ h'.desk.cancels)
      fun _ _ => True := by
    apply ensures_consume
    · simp
    · exact fun unasked _ => ⟨rfl, unasked⟩
  obtain ⟨rfl, unasked⟩ := stays.of_ok unasked rfl
  exact ⟨untouched.facing claimed entry.lives standing, untouched.record, unasked⟩

/-- A drive visits nodes at stations of a running run that nobody has asked to stop. -/
theorem visitsOf_station (valid : k.valid h.desk.world) (claimed : h.record.id ∈ h.desk.active)
    (admits : entry.Admits h.record) (mem : v ∈ visitsOf s limits entry.expected (entry.opening s) h) :
    Station k False v ∧ v.record.status = .running ∧ v.record.id = h.record.id ∧ v.record.id ∉ v.desk.cancels := by
  obtain ⟨h', h'', h₁, unmoved, unasked, opened, later⟩ := exists_opening mem
  obtain ⟨facing, same, -⟩ := facing_of_unmoved valid claimed unmoved unasked
  have embarks := (entry.embarks admits facing same).of_ok opened
  have advances : Advances k False h'' h₁ := by
    cases embarks with
    | goes advances _ => exact advances
  obtain ⟨station, running, own, quiet⟩ := visits_station advances.station later
  exact ⟨station, running, by rw [own, advances.run.id, same], quiet⟩

theorem Takes.treads (takes : Takes s limits entry h leg) (valid : k.valid h.desk.world)
    (claimed : h.record.id ∈ h.desk.active) (admits : entry.Admits h.record) : Treads k h.record.id leg := by
  cases takes with
  | @opens h' h'' w result unmoved unasked opened =>
    obtain ⟨facing, same, quiet⟩ := facing_of_unmoved valid claimed unmoved unasked
    have stays := entry.keeps_opening (still k) h'' facing.valid
    have leads := entry.embarks admits facing same
    refine ⟨facing.attending, by rw [same], by rwa [same] at quiet, ?_, ?_⟩
    · cases result with
      | error failure => exact .fails failure (leads.of_error opened)
      | ok go => exact (leads.of_ok opened).leads
    · have sent : k.sent w.desk.world = k.sent h''.desk.world := by
        cases result with
        | error failure => exact (stays.of_error opened).sent
        | ok go => exact (stays.of_ok opened).sent
      simp [sent]
  | @visits v w result mem visited =>
    obtain ⟨station, running, here, quiet⟩ := visitsOf_station valid claimed admits mem
    have leads := visit_station limits station running
    have sends := k.tally.visit_sends limits station.valid
    refine ⟨station.attending (Execution.lives_of_running running), here, here ▸ quiet, ?_, ?_⟩
    · cases result with
      | error failure =>
        have breaks := leads.of_error visited
        exact .fails failure (.lives breaks.attends (Execution.lives_of_running breaks.running))
      | ok _ => exact .goes (leads.of_ok visited)
    · cases result with
      | error failure => exact (sends.of_error visited).sent
      | ok _ => exact (sends.of_ok visited).sent

end Takes

end TriggerFlow.Run
