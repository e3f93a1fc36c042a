import TriggerFlow.Proofs.Run.Conduct
import TriggerFlow.Proofs.Run.Life

/-!
# Taking a copy up

A copy of a run is taken up to be started, or to be resumed at a point in time. What is done with it is the same in
either case but for the opening, and for the state that the stored record is expected in. When the run was launched is
not touched.
-/

namespace TriggerFlow.Run

variable {σ : Type} {s : Surroundings σ} {k : Chronicle s} {limits : Limits} {h : Held σ}

/-- How a copy of a run is taken up to be driven. -/
inductive Entry where
  | start
  | resume (time : Option Instant) (context : Members)

/-- What leaves the record in hand alone leaves the time of its launch alone. -/
theorem startedAt_of_record {α : Type} {x : Act (Held σ) α}
    (same : x.Ensures h (fun _ h' => h'.record = h.record) fun _ h' => h'.record = h.record) :
    x.Ensures h (fun _ h' => h'.record.startedAt = h.record.startedAt)
      fun _ h' => h'.record.startedAt = h.record.startedAt :=
  same.mono (fun _ _ => congrArg Execution.startedAt) fun _ _ => congrArg Execution.startedAt

/-- The time at which a run was launched does not change while it is driven. -/
def dating (s : Surroundings σ) : Manner.Driving s where
  fits _ := True
  goes h h' := h'.record.startedAt = h.record.startedAt
  refl _ := rfl
  trans same same' := same'.trans same
  fits_of_goes _ := trivial
  change _ retouched := retouched.startedAt
  merges _ := rfl
  log _ nodeId action outcome message data := (log_record nodeId action outcome message data).mono
    (fun _ _ record => by rw [record]; rfl) fun _ _ record => by rw [record]; rfl
  respond _ _ := rfl
  happen _ _ := startedAt_of_record (happen_record _)
  persist _ _ := startedAt_of_record persist_record
  consume _ _ := startedAt_of_record (atDesk_record _)
  moved expected _ _ := startedAt_of_record (movedOn_record expected)

namespace Entry

/-- The state in which the stored record is expected. -/
def expected : Entry → Status
  | start => .pending
  | resume _ _ => .waiting

/-- The way to the first node that is visited. -/
def opening (s : Surroundings σ) : Entry → Act (Held σ) Bool
  | start => begin s
  | resume time context => wakeAt s time context

/-- Whether a copy is taken up at all. -/
def Admits (e : Execution) : Entry → Prop
  | start => True
  | resume _ _ => e.status = .waiting

/-- Takes a copy up, and drives it. -/
def enter (s : Surroundings σ) (limits : Limits) (e : Execution) : Entry → Act (Desk σ) Driven
  | start => Run.start s limits e
  | resume time context => Run.resume s limits e time context

/-- What is done with a copy in hand. -/
def body (s : Surroundings σ) (limits : Limits) (entry : Entry) : Act (Held σ) (Option Execution) :=
  unlessMoved s entry.expected (thenLoop s limits (entry.opening s))

variable {entry : Entry} {e : Execution} {d d' : Desk σ}

theorem lives (entry : Entry) : entry.expected.isTerminal = false := by cases entry <;> rfl

theorem enter_eq (limits : Limits) (idle : e.id ∉ d.active) (admits : entry.Admits e) :
    entry.enter s limits e d = drive s e (entry.body s limits) { d with active := e.id :: d.active } := by
  have claims : Desk.claim e.id d = (.ok true, { d with active := e.id :: d.active }) := by
    rw [Desk.claim, if_neg (by simpa using idle)]
  cases entry with
  | start =>
    rw [enter, Run.start, Act.bind_run_ok claims, startBody_eq]
    rfl
  | resume time context =>
    have waits : e.status = .waiting := admits
    rw [enter, Run.resume, if_neg (by simpa using waits), Act.bind_run_ok claims, resumeBody_now_eq]
    rfl

/-- Whatever copy is taken up, its opening leads to a station, or it fails. -/
theorem embarks (admits : entry.Admits e) (facing : Facing k entry.expected h) (same : h.record = e) :
    (entry.opening s).Ensures h (fun go h' => Embarks k False h h' go) fun _ => Falters k h := by
  cases entry with
  | start => exact begin_embarks facing False.elim
  | resume time context =>
    have waits : h.record.status = .waiting := same ▸ admits
    exact wake_embarks facing waits False.elim _ context

theorem admits_of_status (status : e.status = entry.expected) : entry.Admits e := by
  cases entry with
  | start => trivial
  | resume time context => exact status

theorem keeps_opening (m : Manner.Storing s) (entry : Entry) : m.Keeps (entry.opening s) := by
  cases entry with
  | start => exact m.keeps_begin
  | resume time context => exact m.keeps_wakeAt time context

theorem conducted (limits : Limits) (valid : k.valid d.world) (idle : e.id ∉ d.active) (admits : entry.Admits e) :
    (entry.enter s limits e).Ensures d (fun driven => Conducted k False entry.expected e d driven)
      fun _ _ => False := by
  rw [Act.ensures_of_eq (enter_eq limits idle admits)]
  apply drive_conducted valid idle entry.lives False.elim
  exact fun h facing same => embarks admits facing same

/-- The states in which nodes are visited when a copy is taken up. -/
def visited (s : Surroundings σ) (limits : Limits) (d : Desk σ) (e : Execution) : Entry → List (Held σ)
  | start => startVisits s limits d e
  | resume time context => resumeVisits s limits time context d e

theorem visited_eq (idle : e.id ∉ d.active) (admits : entry.Admits e) :
    entry.visited s limits d e = visitsOf s limits entry.expected (entry.opening s) (claimed d e) := by
  cases entry with
  | start =>
    rw [visited, startVisits, if_neg (by simpa using idle)]
    rfl
  | resume time context =>
    have waits : e.status = .waiting := admits
    rw [visited, resumeVisits, if_neg (by simp [waits, idle])]
    rfl

/-- A copy that is driven already is refused or left alone, and so is one that cannot be resumed. -/
theorem enter_of_declined (limits : Limits) (declined : e.id ∈ d.active ∨ ¬ entry.Admits e) :
    entry.visited s limits d e = [] ∧ (entry.enter s limits e).Ensures d
      (fun driven d' => driven = ⟨e, e⟩ ∧ d' = d)
      fun failure d' => failure = .run (.alreadyDriven e.id) ∧ d' = d := by
  cases entry with
  | start =>
    have busy : e.id ∈ d.active := declined.resolve_right fun refused => refused trivial
    refine ⟨if_pos (by simpa using busy), ?_⟩
    refine Act.ensures_bind.mpr (ensures_claim.mpr ?_)
    rw [if_pos (by simpa using busy)]
    exact ⟨rfl, rfl⟩
  | resume time context =>
    have idle : e.status ≠ .waiting ∨ d.active.contains e.id := by
      rcases declined with busy | refused
      · exact .inr (by simpa using busy)
      · exact .inl refused
    refine ⟨if_pos idle, ?_⟩
    show (Run.resume s limits e time context).Ensures d _ _
    unfold Run.resume
    split
    · exact ⟨rfl, rfl⟩
    rename_i waits
    have busy : d.active.contains e.id := idle.resolve_left (by simpa using waits)
    refine Act.ensures_bind.mpr (ensures_claim.mpr ?_)
    rw [if_pos busy]
    exact ⟨rfl, rfl⟩

/-- The copy that has been driven was launched when the copy that was taken up was. -/
theorem dated (limits : Limits) (entry : Entry) (e : Execution) (d : Desk σ) : (entry.enter s limits e).Ensures d
    (fun driven _ => driven.copy.startedAt = e.startedAt) fun _ _ => True := by
  by_cases declined : e.id ∈ d.active ∨ ¬ entry.Admits e
  · refine (entry.enter_of_declined limits declined).2.mono ?_ fun _ _ _ => trivial
    rintro _ _ ⟨rfl, -⟩
    rfl
  · push Not at declined
    rw [Act.ensures_of_eq (enter_eq limits declined.1 declined.2)]
    have keeps := (dating s).keeps_unlessMoved entry.expected
      ((dating s).keeps_thenLoop limits (keeps_opening (dating s).toStoring entry))
    exact ensures_drive.mpr (((dating s).keeps_aborting keeps _ trivial).mono (fun _ _ same => same)
      fun _ _ _ => trivial)

section Stored

variable {k : Ledger s} {g : Graph} {r : Execution}

theorem begins (sound : g.Valid) (entry : Entry) : Begins k g entry.expected (entry.opening s) := by
  cases entry with
  | start => exact begins_begin sound
  | resume time context => exact begins_wakeAt sound time context

/-- The drive of a stored record that is in the state expected comes to an end. -/
theorem ended (sound : g.Valid) (limits : Limits) (valid : k.valid d.world) (free : e.id ∉ d.active)
    (stored : k.record d.world e.id = some e) (graph : e.graph = g) (course : Course g e (k.calls d.world e.id))
    (status : e.status = entry.expected) : (entry.enter s limits e).Ensures d (Ended k g e d) fun _ _ => False := by
  cases entry with
  | start => exact start_live sound limits valid free stored graph course status
  | resume time context => exact resume_live sound limits time context valid free stored graph course status

/-- A copy whose stored record has moved on is not driven. -/
theorem enter_of_moved (limits : Limits) (valid : k.valid d.world) (stored : k.record d.world e.id = some r)
    (moved : r.status ≠ entry.expected) : entry.visited s limits d e = [] ∧
      (entry.enter s limits e).Ensures d (fun _ => Passed k d) fun _ => Passed k d := by
  constructor
  · by_cases declined : e.id ∈ d.active ∨ ¬ entry.Admits e
    · exact (entry.enter_of_declined limits declined).1
    · push Not at declined
      rw [entry.visited_eq declined.1 declined.2]
      exact visitsOf_eq_nil valid stored moved
  · cases entry with
    | start =>
      apply (start_moved limits valid stored moved).mono (fun _ _ passed => passed.2)
      rintro _ d' rfl
      exact ⟨rfl, valid, rfl, rfl, k.drift_refl _⟩
    | resume time context =>
      exact (resume_moved limits time context valid stored moved).mono (fun _ _ passed => passed.2)
        fun _ _ none => none.elim

/-- The answer for a copy whose stored record has moved on is the stored record. -/
theorem answers_moved (limits : Limits) (valid : k.valid d.world) (idle : e.id ∉ d.active) (admits : entry.Admits e)
    (stored : k.record d.world e.id = some r) (moved : r.status ≠ entry.expected) :
    (entry.enter s limits e).Ensures d (fun driven d' => driven.answer = r ∧ k.Same d.world d'.world)
      fun _ _ => False := by
  rw [Act.ensures_of_eq (enter_eq limits idle admits)]
  exact (drive_moved valid idle stored moved).mono (fun _ _ passed => ⟨passed.1, passed.2.2.same⟩) fun _ _ none => none

end Stored

end Entry

end TriggerFlow.Run
