import TriggerFlow.Proofs.Run.Legs
import TriggerFlow.Proofs.World

/-!
# Every drive settles

Nothing is assumed here of the graph, of the dispatcher or of the store. The drive of a copy whose stored record has
not moved on comes back, with a copy that has ended or waits, after no more calls than there are visits in its budget,
and with the claim given back. A failure that breaks a drive off ends the run, and one that keeps the ending from being
stored is passed over.
-/

namespace TriggerFlow

/-- A run that has ended or waits. -/
def Execution.Settled (e : Execution) : Prop := e.isTerminal = true ∨ e.status = .waiting

theorem Execution.settled_of_rests {e : Execution} (rests : e.status ≠ .running) (begun : e.status ≠ .pending) :
    e.Settled := by
  rw [Settled, isTerminal]
  cases status : e.status <;> simp_all [Status.isTerminal]

namespace Run

variable {σ : Type} {s : Surroundings σ} {limits : Limits} {h : Held σ} {e : Execution} {d : Desk σ}

section Acts

/-- Where a run could be cancelled, it is, whatever the store makes of it. -/
theorem cancel_ends : (cancel s).Ensures h (fun _ h' => h'.record.status = .cancelled) fun _ _ => True := by
  refine Act.ensures_bind.mpr (ensures_become.mpr ⟨?_, fun _ => trivial⟩)
  intro e moved
  have cancelled := status_of_become? moved
  refine Act.ensures_bind.mpr (ensures_current.mpr (Act.ensures_bind.mpr ?_))
  apply (log_onward _ _ _ _ _).mono _ fun _ _ _ => trivial
  intro _ h₁ on
  apply persist_record.mono _ fun _ _ _ => trivial
  intro _ h₂ same
  rw [same, on.status]
  exact cancelled

/-- A failure ends the run that is in hand, and nothing keeps it from doing so. -/
theorem abort_settles (failure : Failure) : (abort s failure).Ensures h
    (fun _ h' => h'.record.isTerminal = true) fun _ _ => False := by
  cases lives : h.record.isTerminal with
  | true =>
    rw [Act.Ensures, abort_of_ended lives]
    exact lives
  | false =>
    have can : h.record.status.canBecome .failed := Status.canEnd lives (.inr rfl)
    refine Act.ensures_bind.mpr (ensures_current.mpr ?_)
    rw [if_neg (by simp [lives])]
    refine Act.ensures_bind.mpr (ensures_change.mpr (Act.ensures_bind.mpr (ensures_become.mpr ⟨?_, ?_⟩)))
    · intro e moved
      have ended {h' : Held σ} (same : h'.record.status = e.status) : h'.record.isTerminal = true := by
        rw [Execution.isTerminal, same, status_of_become? moved]
        rfl
      refine Act.ensures_recover.mpr (Act.ensures_bind.mpr ((log_onward _ _ _ _ _).mono ?_ ?_))
      · intro _ h₁ on
        apply persist_record.mono
        · exact fun _ h₂ same => ended (by rw [same, on.status])
        · exact fun _ h₂ same => ended (by rw [same, on.status])
      · exact fun _ h₁ on => ended on.status
    · intro refused
      simp [Execution.become?, can, Status.isTerminal] at refused

end Acts

section Visits

/-- The visits stop at a run that is not running, and never at one that has not begun. -/
theorem mayVisit_rests : (mayVisit s).Ensures h
    (fun go h' => if go then h'.record = h.record ∧ h.record.status = .running
      else h'.record.status ≠ .running ∧ (h.record.status ≠ .pending → h'.record.status ≠ .pending))
    fun _ _ => True := by
  have stops : (cancel s).Ensures (consumed h) (fun _ h' => h'.record.status ≠ .running ∧
      (h.record.status ≠ .pending → h'.record.status ≠ .pending)) fun _ _ => True :=
    cancel_ends.mono (fun _ _ cancelled => by simp [cancelled]) fun _ _ _ => trivial
  refine Act.ensures_bind.mpr (ensures_current.mpr ?_)
  by_cases running : h.record.status = .running
  · rw [if_neg (by simpa using running)]
    apply Act.ensures_bind.mpr
    apply ensures_consume
    · exact fun _ => Act.ensures_bind.mpr stops
    · exact fun _ => ⟨rfl, running⟩
  · rw [if_pos running]
    refine Act.ensures_bind.mpr (Act.ensures_bind.mpr (ensures_current.mpr ?_))
    split
    · apply Act.ensures_bind.mpr
      apply ensures_consume
      · exact fun _ => stops
      · exact fun _ => ⟨running, id⟩
    · exact ⟨running, id⟩

/-- After a visit to a running run, the run has begun. -/
theorem visit_begun (limits : Limits) (running : h.record.status = .running) : (visit s limits).Ensures h
    (fun _ h' => h'.record.status ≠ .pending) fun _ _ => True := by
  have goesOn {node : Node} {x : Act (Held σ) (Option String)}
      (turns : x.Ensures h (fun next h' => Turned node h.record next h'.record) fun _ h' => Onward h.record h'.record) :
      (x >>= goOn s).Ensures h (fun _ h' => h'.record.status ≠ .pending) fun _ _ => True := by
    apply Act.ensures_bind.mpr
    apply turns.mono _ fun _ _ _ => trivial
    intro next h₁ turned
    apply (goOn_record next).mono _ fun _ _ _ => trivial
    intro _ h₂ same
    rw [same, headed_status]
    rcases turned.path running with goes | moves
    · simp [goes]
    · intro pending
      rw [running, pending] at moves
      cases moves
  unfold visit
  refine Act.ensures_bind.mpr (Act.ensures_bind.mpr (ensures_current.mpr ?_))
  split
  · refine Act.ensures_pure.mpr ?_
    split
    · rename_i node a task
      cases parks : a.kind.parks with
      | true => exact goesOn (park_turned _ a task parks running)
      | false => exact goesOn (perform_turned limits _ a running)
    · exact goesOn (decide_turned _ _ running)
    · refine Act.ensures_bind.mpr ((log_onward _ _ _ _ _).mono ?_ fun _ _ _ => trivial)
      intro _ h₁ on
      refine Act.ensures_bind.mpr (ensures_become.mpr ⟨?_, fun _ => trivial⟩)
      intro e moved
      apply persist_record.mono _ fun _ _ _ => trivial
      intro _ h₂ same
      rw [same]
      exact fun pending => nomatch (status_of_become? moved).symm.trans pending
    · trivial
  · trivial

/-- Visits that do not break off come to rest, on any graph. -/
theorem loop_settles (limits : Limits) : ∀ (budget : Nat) {h : Held σ}, h.record.status ≠ .pending →
    (loop s limits budget).Ensures h (fun _ h' => h'.record.Settled) fun _ _ => True
  | 0, h, begun => by
    apply Act.ensures_bind.mpr
    apply mayVisit_rests.mono _ fun _ _ _ => trivial
    rintro (_ | _) h₁ spec
    · exact Execution.settled_of_rests spec.1 (spec.2 begun)
    · trivial
  | budget + 1, h, begun => by
    apply Act.ensures_bind.mpr
    apply mayVisit_rests.mono _ fun _ _ _ => trivial
    rintro (_ | _) h₁ spec
    · exact Execution.settled_of_rests spec.1 (spec.2 begun)
    obtain ⟨same, running⟩ := spec
    apply Act.ensures_bind.mpr
    apply (visit_begun limits (same ▸ running)).mono _ fun _ _ _ => trivial
    exact fun _ h₂ begun => loop_settles limits budget begun

end Visits

section Openings

theorem begin_settles : (begin s).Ensures h (fun go h' => go = true ∧ h'.record.status = .running)
    fun _ _ => True := by
  refine Act.ensures_bind.mpr (ensures_become.mpr ⟨?_, fun _ => trivial⟩)
  intro e moved
  refine Act.ensures_bind.mpr (ensures_current.mpr ?_)
  split
  · trivial
  · refine Act.ensures_bind.mpr (ensures_successor (fun next => ?_) fun _ => trivial)
    refine Act.ensures_bind.mpr ((goOn_record _).mono ?_ fun _ _ _ => trivial)
    exact fun _ h' same => ⟨rfl, by rw [same, headed_status]; exact status_of_become? moved⟩

theorem departing_settles {good : Held σ → Prop} (running : h.record.status = .running) (id : String) :
    (departing s id).Ensures h (fun go h' => if go then h'.record.status = .running else good h') fun _ _ => True := by
  refine Act.ensures_bind.mpr (ensures_current.mpr (Act.ensures_bind.mpr ?_))
  refine ensures_successor (fun next => ?_) fun _ => trivial
  refine Act.ensures_bind.mpr ((goOn_record _).mono ?_ fun _ _ _ => trivial)
  intro _ h' same
  show h'.record.status = .running
  rw [same, headed_status, running]

theorem overdue_settles (running : h.record.status = .running) (node : Node) (a : Action) (message : String) :
    (overdue s node a message).Ensures h
      (fun go h' => if go then h'.record.status = .running else h'.record.isTerminal = true) fun _ _ => True := by
  have fails := (actionFailed_turned (s := s) node a message running).and (actionFailed_ends node a message)
  apply Act.ensures_bind.mpr
  apply fails.mono _ fun _ _ _ => trivial
  rintro next h₁ ⟨turned, ends⟩
  refine Act.ensures_bind.mpr ((goOn_record next).mono ?_ fun _ _ _ => trivial)
  intro _ h₂ same
  cases next with
  | none =>
    show h₂.record.isTerminal = true
    rw [Execution.isTerminal, same, headed_status, ends rfl]
    rfl
  | some next =>
    cases turned with
    | leads _ on =>
      show h₂.record.status = .running
      rw [same, headed_status, on.status, running]

/-- A waiting run that is taken up goes on running, or it fails; else it is not due, and still waits. -/
theorem wake_settles (time : Instant) (context : Members) (waits : h.record.status = .waiting) :
    (wake s time context).Ensures h
      (fun go h' => if go then h'.record.status = .running else h'.record.isTerminal = true ∨
        h'.record.status = .waiting ∧ lookAt h.record time context = .ok .notDue) fun _ _ => True := by
  apply ensures_wake waits
  · exact fun _ => trivial
  · exact fun looked => .inr ⟨waits, looked⟩
  · intro node a message _
    apply (overdue_settles rfl node a message).mono _ fun _ _ _ => trivial
    rintro (_ | _) h' settles
    · exact .inl settles
    · exact settles
  · intro node _
    refine ⟨departing_settles rfl node.id, fun action message => ?_⟩
    refine Act.ensures_bind.mpr ((log_onward _ _ _ _ _).mono ?_ fun _ _ _ => trivial)
    exact fun _ h₁ on => departing_settles on.status node.id

theorem Entry.opening_settles {entry : Entry} (status : h.record.status = entry.expected) :
    (entry.opening s).Ensures h
      (fun go h' => if go then h'.record.status = .running else h'.record.Settled) fun _ _ => True := by
  cases entry with
  | start =>
    apply begin_settles.mono _ fun _ _ _ => trivial
    rintro go h' ⟨rfl, running⟩
    exact running
  | resume time context =>
    apply (wake_settles _ context status).mono _ fun _ _ _ => trivial
    rintro (_ | _) h' settles
    · exact settles.imp_right And.left
    · exact settles

end Openings

/-- A record that is stored, if there is one and it can be read, is in the state that is expected. -/
def Stands (s : Surroundings σ) (expected : Status) (id : String) (w : σ) : Prop :=
  ∀ stored w', s.load id w = (.ok (some stored), w') → stored.status = expected

theorem movedOn_stands {expected : Status} (stands : Stands s expected h.record.id h.desk.world) :
    (movedOn s expected).Ensures h (fun moved h' => moved = none ∧ h'.record = h.record) fun _ _ => True := by
  refine Act.ensures_bind.mpr (ensures_current.mpr (Act.ensures_bind.mpr (ensures_inWorld.mpr ?_)))
  apply (Act.Ensures.run _ _).mono _ fun _ _ _ => trivial
  rintro (_ | stored) w run
  · exact ⟨rfl, rfl⟩
  · exact ⟨if_pos (stands stored w run), rfl⟩

/-- What is done with a copy whose record has not moved on settles it, unless it breaks off. -/
theorem Entry.body_settles {entry : Entry} (limits : Limits) (status : h.record.status = entry.expected)
    (stands : Stands s entry.expected h.record.id h.desk.world) : (entry.body s limits).Ensures h
      (fun moved h' => moved = none ∧ h'.record.Settled) fun _ _ => True := by
  refine Act.ensures_bind.mpr ((movedOn_stands stands).mono ?_ fun _ _ _ => trivial)
  rintro _ h₁ ⟨rfl, same⟩
  apply Act.ensures_bind.mpr
  apply ensures_consume
  · intro _
    refine Act.ensures_bind.mpr (cancel_ends.mono ?_ fun _ _ _ => trivial)
    exact fun _ h₂ cancelled => ⟨rfl, .inl (by rw [Execution.isTerminal, cancelled]; rfl)⟩
  · intro _
    refine Act.ensures_bind.mpr (Act.ensures_bind.mpr ?_)
    apply (Entry.opening_settles (by rw [same, status])).mono _ fun _ _ _ => trivial
    rintro (_ | _) h₂ opened
    · exact ⟨rfl, opened⟩
    · have running : h₂.record.status = .running := opened
      apply (loop_settles limits limits.steps.toNat (by simp [running])).mono _ fun _ _ _ => trivial
      exact fun _ h₃ settled => ⟨rfl, settled⟩

theorem Ledger.stands {k : Ledger s} {expected : Status} {id : String} {w : σ} (valid : k.valid w)
    (standing : ∀ e, k.record w id = some e → e.status = expected) : Stands s expected id w := by
  intro stored w' run
  exact standing stored ((k.load valid id).of_ok run).1.symm

/-- A copy whose record has not moved on is settled by its drive, and is the answer. -/
theorem Entry.drive_settled {entry : Entry} (limits : Limits) (status : e.status = entry.expected)
    (stands : Stands s entry.expected e.id d.world) :
    (drive s e (entry.body s limits)).Ensures { d with active := e.id :: d.active }
      (fun driven _ => driven.answer = driven.copy ∧ driven.copy.Settled) fun _ _ => False := by
  apply ensures_drive.mpr
  apply Act.ensures_recover.mpr
  apply (entry.body_settles (h := claimed d e) limits status stands).mono
  · rintro _ h ⟨rfl, settled⟩
    exact ⟨rfl, settled⟩
  · intro failure h _
    apply Act.ensures_bind.mpr
    apply (abort_settles failure).mono _ fun _ _ none => none
    exact fun _ h' ended => ⟨rfl, .inl ended⟩

namespace Trial

open TriggerFlow.Trial

/-- A graph that leads from a mail to the same mail. -/
def circling : Graph :=
  ⟨[⟨"begin", "", none, .trigger ⟨.manual, []⟩⟩, ⟨"mail", "", none, .action ⟨.sendEmail, [], false, none⟩⟩],
   [⟨"out", "begin", "mail", none⟩, ⟨"back", "mail", "mail", none⟩], 1⟩

-- The ten mails are all sent, and then the run has failed.
example : (start surroundings bounds (created circling) (atNine circling)).2.world.sent.length = 10 := by
  decide +kernel

end Trial

end Run

end TriggerFlow
