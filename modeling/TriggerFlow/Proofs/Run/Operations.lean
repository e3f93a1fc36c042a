import TriggerFlow.Proofs.Run.Conduct
import TriggerFlow.Proofs.World

/-!
# What is asked of an engine

Runs are started and resumed by any copies of them, due runs are resumed, requests to cancel are made, and runs are
claimed and given back. Whatever is asked, in whatever order, every version of a record that is stored follows from the
one before it, as long as that has not ended; and for a run that has ended nothing is sent out.
-/

namespace TriggerFlow.Run

variable {σ : Type} {s : Surroundings σ} {k : Chronicle s} {sound : Prop} {limits : Limits} {d d' d'' : Desk σ}

/-- What may be asked of an engine. -/
inductive Operation where
  | start (copy : Execution)
  | resume (copy : Execution) (time : Option Instant) (context : Members)
  | resumeDue (time : Option Instant) (context : Members)
  | requestCancel (id : String)
  | claim (id : String)
  | release (id : String)
  deriving DecidableEq, Repr

namespace Operation

/-- Carries an operation out, and gives the copies that come of it. -/
def carryOut (s : Surroundings σ) (limits : Limits) : Operation → Act (Desk σ) (List Execution)
  | start copy => do
    let driven ← Run.start s limits copy
    return [driven.answer, driven.copy]
  | resume copy time context => do
    let driven ← Run.resume s limits copy time context
    return [driven.answer, driven.copy]
  | resumeDue time context => Run.resumeDue s limits time context
  | requestCancel id => do return (← Run.requestCancel s id).toList
  | claim id => do
    let _ ← Desk.claim id
    return []
  | release id => do
    Act.modify (Desk.released id false)
    return []

/-- The desk after an operation, whether it has failed or not. -/
def after (s : Surroundings σ) (limits : Limits) (operation : Operation) (d : Desk σ) : Desk σ :=
  (operation.carryOut s limits d).2

end Operation

/-- The desk after operations, one after the other. -/
def afterAll (s : Surroundings σ) (limits : Limits) (operations : List Operation) (d : Desk σ) : Desk σ :=
  operations.foldl (fun d operation => operation.after s limits d) d

/-- How the records of all runs may change from one desk to another. -/
structure Progress (k : Chronicle s) (sound : Prop) (d d' : Desk σ) : Prop where
  valid : k.valid d'.world
  written : ∀ run, ∃ new, k.history d'.world run = k.history d.world run ++ new ∧
    Written (s.Spares run) sound (k.record d.world run) new (k.record d'.world run)
  frozen : ∀ run e, s.Spares run → k.record d.world run = some e → e.isTerminal →
    k.calls d'.world run = k.calls d.world run

namespace Progress

theorem refl (valid : k.valid d.world) : Progress k sound d d :=
  ⟨valid, fun _ => ⟨[], by simp, .done _⟩, fun _ _ _ _ _ => rfl⟩

/-- A record that has ended stays what it is, and none of its versions is written anew. -/
theorem stands (progress : Progress k sound d d') {run : String} {e : Execution} (spares : s.Spares run)
    (stored : k.record d.world run = some e) (ended : e.isTerminal) :
    k.record d'.world run = some e ∧ k.history d'.world run = k.history d.world run := by
  obtain ⟨new, history, written⟩ := progress.written run
  rw [stored] at written
  obtain ⟨none, same⟩ := written.eq_of_isTerminal spares ended
  exact ⟨same, by rw [history, none, List.append_nil]⟩

theorem trans (progress : Progress k sound d d') (progress' : Progress k sound d' d'') : Progress k sound d d'' where
  valid := progress'.valid
  written run := by
    obtain ⟨new, history, written⟩ := progress.written run
    obtain ⟨more, history', written'⟩ := progress'.written run
    exact ⟨new ++ more, by rw [history', history, List.append_assoc], written.trans written'⟩
  frozen run e spares stored ended := by
    have still := (progress.stands spares stored ended).1
    exact (progress'.frozen run e spares still ended).trans (progress.frozen run e spares stored ended)

theorem mono {sound' : Prop} (weaker : sound' → sound) (progress : Progress k sound d d') :
    Progress k sound' d d' where
  valid := progress.valid
  written run := by
    obtain ⟨new, history, written⟩ := progress.written run
    exact ⟨new, history, written.mono weaker⟩
  frozen := progress.frozen

/-- Nothing has changed that a ledger shows, and nothing has been noted. -/
theorem of_same (same : k.Same d.world d'.world) (notes : k.notes d'.world = k.notes d.world) :
    Progress k sound d d' where
  valid := same.valid
  written run := by
    refine ⟨[], by rw [Chronicle.history_same notes, List.append_nil], ?_⟩
    rw [same.record]
    exact .done _
  frozen run _ _ _ _ := by simp [Books.calls, same.sent]

/-- At the desk there is no more to it than who drives what and what has been asked. -/
theorem of_world (valid : k.valid d.world) (world : d'.world = d.world) : Progress k sound d d' := by
  apply of_same
  · rw [world]
    exact ⟨valid, rfl, rfl, k.drift_refl _⟩
  · rw [world]

/-- A record that is not lost is still there. -/
theorem kept (progress : Progress k sound d d') {id : String} (spares : s.Spares id)
    (present : k.record d.world id ≠ none) : k.record d'.world id ≠ none := by
  obtain ⟨new, -, written⟩ := progress.written id
  exact written.kept spares present

/-- What is pending has been pending before. -/
theorem was_pending (progress : Progress k sound d d') {id : String} {e : Execution}
    (stored : k.record d'.world id = some e) (pending : e.status = .pending) :
    ∃ r, k.record d.world id = some r ∧ r.status = .pending := by
  obtain ⟨new, -, written⟩ := progress.written id
  exact written.pending stored pending

/-- A copy has been driven; the records make sense if those of its own run do. -/
theorem of_conducted {own : Prop} {expected : Status} {e : Execution} {driven : Driven}
    (lives : expected.isTerminal = false)
    (conducted : Conducted k own expected e d driven d') (driver : sound → own) : Progress k sound d d' where
  valid := conducted.accounts.valid
  written run := by
    obtain ⟨new, history, written⟩ := conducted.accounts.written run
    exact ⟨new, history, written.mono fun sense _ => driver sense⟩
  frozen run stored _ known ended := by
    by_cases same : run = e.id
    · subst same
      have differs : stored.status ≠ expected := by
        intro status
        rw [Execution.isTerminal, status, lives] at ended
        cases ended
      obtain ⟨-, unchanged, -⟩ := conducted.untouched known differs
      simp [Books.calls, unchanged.sent]
    · exact conducted.accounts.calls_of_ne same

theorem of_asked {id : String} (asked : Asked k id d d') : Progress k sound d d' where
  valid := asked.valid
  written run := by
    obtain ⟨new, history, written⟩ := asked.written run
    exact ⟨new, history, written.mono fun _ => trivial⟩
  frozen run _ _ _ _ := by simp [Books.calls, asked.sent]

end Progress

/-- What comes of a request to cancel a run: one that is driven or has not begun is asked to stop, one that waits is
cancelled at once, and any other is left alone. -/
inductive Answered (k : Chronicle s) (id : String) (d : Desk σ) : Option Execution → Desk σ → Prop
  | driven (busy : id ∈ d.active) : Answered k id d none (d.flagged id)
  | cancelled {r : Execution} {d' : Desk σ} (idle : id ∉ d.active) (stored : k.record d.world id = some r)
    (waits : r.status = .waiting) (ended noted : Instant)
    (now : k.record d'.world id = some (cancelledAt r ended noted)) :
    Answered k id d (some (cancelledAt r ended noted)) d'
  | noted {r : Execution} {d' : Desk σ} (idle : id ∉ d.active) (stored : k.record d.world id = some r)
    (pending : r.status = .pending) (same : k.Same d.world d'.world) (asked : id ∈ d'.cancels) :
    Answered k id d (some r) d'
  | left {r : Execution} {d' : Desk σ} (idle : id ∉ d.active) (stored : k.record d.world id = some r)
    (begun : r.status ≠ .waiting ∧ r.status ≠ .pending) (same : k.Same d.world d'.world) : Answered k id d (some r) d'

theorem requestCancel_answered (valid : k.valid d.world) (id : String) : (requestCancel s id).Ensures d
    (Answered k id d) fun f _ => f = .executionMissing id ∧ id ∉ d.active ∧ k.record d.world id = none := by
  rw [requestCancel, Act.ensures_bind, ensures_claim]
  by_cases busy : id ∈ d.active
  · rw [if_pos (by simpa using busy)]
    exact .driven busy
  rw [if_neg (by simpa using busy)]
  simp only [if_true, Act.ensures_andThen, Act.ensures_bind, Desk.inWorld, Act.ensures_onPart]
  apply (k.load valid id).mono _ fun _ _ none => none.elim
  rintro found w ⟨rfl, same⟩
  cases stored : k.record d.world id with
  | none => exact ⟨rfl, busy, rfl⟩
  | some r =>
    have own := k.id_of_record valid stored
    cases status : r.status with
    | waiting =>
      simp only [status]
      have present : k.record w r.id ≠ none := by
        rw [same.record, own, stored]
        simp
      have can : r.status.canBecome .cancelled := by rw [status]; rfl
      apply (ensures_handed (x := cancel s) (e := r)).mpr
      apply (cancel_spec (k := k.toLedger) (by exact same.valid) present can).mono _ fun _ _ none => none.elim
      rintro - h' ⟨ended, noted, record, -, becomes⟩
      rw [record]
      apply Answered.cancelled busy stored status ended noted
      show k.record h'.desk.world id = _
      rw [becomes.record, record]
      exact own ▸ Function.update_self ..
    | pending =>
      simp only [status]
      exact .noted busy stored status same (mem_joined _ _)
    | _ =>
      simp only [status]
      exact .left busy stored (by simp [status]) same

theorem start_progress (limits : Limits) (valid : k.valid d.world) (e : Execution) :
    (start s limits e).Ensures d (fun _ => Progress k (e.WellFormed ∧ e.status ≠ .waiting) d)
      fun _ => Progress k (e.WellFormed ∧ e.status ≠ .waiting) d := by
  apply (start_conducted limits valid e).mono
  · exact fun _ _ conducted => .of_conducted rfl conducted id
  · rintro _ _ ⟨rfl, -⟩
    exact .refl valid

theorem resume_progress (limits : Limits) (valid : k.valid d.world) (e : Execution) (time : Option Instant)
    (context : Members) : (resume s limits e time context).Ensures d (fun _ => Progress k e.WellFormed d)
      fun _ => Progress k e.WellFormed d := by
  apply (resume_conducted limits valid e time context).mono _ fun _ _ none => none.elim
  rintro driven d' (⟨-, rfl⟩ | ⟨-, conducted⟩)
  · exact .refl valid
  · exact .of_conducted rfl conducted id

/-- Runs are resumed one after the other, by whatever copies. -/
theorem resumeEach_progress (limits : Limits) (time : Option Instant) (context : Members) :
    ∀ (found : List Execution) {d : Desk σ}, k.valid d.world → (resumeEach s limits time context found).Ensures d
      (fun _ => Progress k (∀ e ∈ found, e.WellFormed) d) fun _ => Progress k (∀ e ∈ found, e.WellFormed) d
  | [], d, valid => .refl valid
  | e :: rest, d, valid => by
    have later {d₁ : Desk σ} (first : Progress k e.WellFormed d d₁) {d₂ : Desk σ}
        (others : Progress k (∀ e ∈ rest, e.WellFormed) d₁ d₂) : Progress k (∀ e' ∈ e :: rest, e'.WellFormed) d d₂ :=
      (first.mono fun all => all e List.mem_cons_self).trans
        (others.mono fun all e' mem => all e' (List.mem_cons_of_mem _ mem))
    have alone {d₁ : Desk σ} (first : Progress k e.WellFormed d d₁) :
        Progress k (∀ e' ∈ e :: rest, e'.WellFormed) d d₁ :=
      first.mono fun all => all e List.mem_cons_self
    apply Act.ensures_bind.mpr
    apply (resume_progress limits valid e time context).mono _ fun _ _ => alone
    intro driven d₁ first
    apply Act.ensures_bind.mpr
    apply (resumeEach_progress limits time context rest first.valid).mono _ fun _ _ => later first
    intro moved d₂ others
    split <;> exact later first others

theorem resumeDue_progress (limits : Limits) (valid : k.valid d.world) (time : Option Instant) (context : Members) :
    (resumeDue s limits time context).Ensures d
      (fun _ => Progress k (∀ id e, k.record d.world id = some e → e.WellFormed) d)
      fun _ => Progress k (∀ id e, k.record d.world id = some e → e.WellFormed) d := by
  apply Act.ensures_bind.mpr
  apply Act.ensures_onPart.mpr
  apply ((k.waiting valid).and (k.waiting_notes valid)).mono
  · rintro found w ⟨⟨same, -, stored⟩, notes⟩
    have looked : Progress k (∀ id e, k.record d.world id = some e → e.WellFormed) d { d with world := w } :=
      .of_same same notes
    have all : (∀ id e, k.record d.world id = some e → e.WellFormed) → ∀ e ∈ found, e.WellFormed :=
      fun sense e mem => sense e.id e (stored e mem).1
    apply (resumeEach_progress limits time context found looked.valid).mono
    · exact fun _ _ progress => looked.trans (progress.mono all)
    · exact fun _ _ progress => looked.trans (progress.mono all)
  · exact fun _ w ⟨same, notes⟩ => .of_same same notes

/-- The copies by which an operation drives runs make sense. -/
def Operation.Sensible (k : Chronicle s) (d : Desk σ) : Operation → Prop
  | .start copy => copy.WellFormed ∧ copy.status ≠ .waiting
  | .resume copy _ _ => copy.WellFormed
  | .resumeDue _ _ => ∀ id e, k.record d.world id = some e → e.WellFormed
  | .requestCancel _ | .claim _ | .release _ => True

/-- What any operation makes of the records of all runs. -/
theorem Operation.progress (limits : Limits) (valid : k.valid d.world) (operation : Operation) :
    Progress k (operation.Sensible k d) d (operation.after s limits d) := by
  apply Act.Ensures.state
  cases operation with
  | start copy => exact Act.ensures_bind.mpr (start_progress limits valid copy)
  | resume copy time context => exact Act.ensures_bind.mpr (resume_progress limits valid copy time context)
  | resumeDue time context => exact resumeDue_progress limits valid time context
  | requestCancel id =>
    apply Act.ensures_bind.mpr
    exact (requestCancel_asked valid id).mono (fun _ _ asked => .of_asked asked) fun _ _ asked => .of_asked asked
  | claim id =>
    apply Act.ensures_bind.mpr
    apply ensures_claim.mpr
    split
    · exact .refl valid
    · exact .of_world valid rfl
  | release id => exact .of_world valid rfl

/-- What any operations make of the records of all runs. -/
theorem afterAll_progress (limits : Limits) : ∀ (operations : List Operation) {d : Desk σ}, k.valid d.world →
    Progress k False d (afterAll s limits operations d)
  | [], _, valid => .refl valid
  | operation :: rest, d, valid => by
    have first : Progress k False d (operation.after s limits d) := (operation.progress limits valid).mono False.elim
    exact first.trans (afterAll_progress limits rest first.valid)

end TriggerFlow.Run

/-!
## A run that has ended stays as it is

As long as the surroundings do not lose its record, all that is ever stored of a run is a chain of versions, each of
which follows from the one before it. None follows from a version that has ended. This holds for every sequence of
operations, on any copies of any runs, and for every dispatcher, clock and store.
-/

namespace TriggerFlow.Run

variable {σ : Type} {s : Surroundings σ} {k : Chronicle s} {d : Desk σ} {id : String}

/-- One version of a record may give way to another: it has not ended, and its state leads to that of the other. -/
def Follows (a b : Execution) : Prop := a.isTerminal = false ∧ Status.LeadsTo a.status b.status

/-- The versions of a record that is not lost are a chain, and the last of them is stored. -/
theorem Written.isChain {spared sound : Prop} {r r' : Option Execution} {new : List Execution}
    (written : Written spared sound r new r') (spares : spared) :
    (r.toList ++ new).IsChain Follows ∧ r' = (r.toList ++ new).getLast? := by
  induction written with
  | done r => cases r <;> simp
  | lost unspared => exact absurd spares unspared
  | @write r r' e new proper rest ih =>
    obtain ⟨chain, last⟩ := ih
    cases r with
    | none => exact ⟨chain, last⟩
    | some a =>
      have follows : Follows a e := ⟨proper.lives a rfl, proper.path a rfl⟩
      constructor
      · exact List.IsChain.cons_cons follows chain
      · rw [last]
        simp [List.getLast?_cons_cons]

/-- Whatever is done, the versions that are stored of a run are a chain; and once the stored one has ended, whatever is
done later leaves it as it is, stores no other and sends nothing out for the run. -/
theorem versions_final (limits : Limits) (valid : k.valid d.world) (spares : s.Spares id)
    (operations : List Operation) :
    (∃ new, k.history (afterAll s limits operations d).world id = k.history d.world id ++ new ∧
      ((k.record d.world id).toList ++ new).IsChain Follows ∧
      k.record (afterAll s limits operations d).world id = ((k.record d.world id).toList ++ new).getLast?) ∧
    ∀ e, k.record (afterAll s limits operations d).world id = some e → e.isTerminal → ∀ later : List Operation,
      k.record (afterAll s limits later (afterAll s limits operations d)).world id = some e ∧
      k.history (afterAll s limits later (afterAll s limits operations d)).world id =
        k.history (afterAll s limits operations d).world id ∧
      k.calls (afterAll s limits later (afterAll s limits operations d)).world id =
        k.calls (afterAll s limits operations d).world id := by
  have progress := afterAll_progress (k := k) limits operations valid
  constructor
  · obtain ⟨new, history, written⟩ := progress.written id
    obtain ⟨chain, last⟩ := written.isChain spares
    exact ⟨new, history, chain, last⟩
  · intro e stored ended later
    have more := afterAll_progress (k := k) limits later progress.valid
    obtain ⟨same, history⟩ := more.stands spares stored ended
    exact ⟨same, history, more.frozen id e spares stored ended⟩

end TriggerFlow.Run

namespace TriggerFlow.Trial

open TriggerFlow.Graph (pausing)

/-- The small world, with notes of what is stored. -/
abbrev recording : Run.Surroundings (World Unit × List Run.Note) := surroundings.noting books.record

abbrev chronicle : Run.Chronicle recording := books.chronicle

/-- A desk of the small world at which nothing has been noted. -/
def unwritten (d : Run.Desk (World Unit)) : Run.Desk (World Unit × List Run.Note) := ⟨d.active, d.cancels, d.world, []⟩

open Run in
/-- A run that waits is cancelled, and neither its first copy nor the one that waited brings it back. -/
theorem cancelled_for_good : chronicle.valid (unwritten (atNine pausing)).world ∧ recording.Spares "run" ∧
    ∃ e, chronicle.record (afterAll recording bounds [.start (created pausing), .requestCancel "run"]
        (unwritten (atNine pausing))).world "run" = some e ∧ e.status = .cancelled ∧
      chronicle.record (afterAll recording bounds [.start (created pausing), .resume parked none [], .resumeDue none []]
        (afterAll recording bounds [.start (created pausing), .requestCancel "run"]
          (unwritten (atNine pausing)))).world "run" = some e := by
  have valid : chronicle.valid (unwritten (atNine pausing)).world := atNine_valid pausing
  have spared : recording.Spares "run" := (spares "run").noting _
  have cancels : ((chronicle.record (afterAll recording bounds [.start (created pausing), .requestCancel "run"]
      (unwritten (atNine pausing))).world "run").map Execution.status) = some .cancelled := by decide +kernel
  obtain ⟨e, stored, status⟩ := Option.map_eq_some_iff.mp cancels
  have ended : e.isTerminal := by rw [Execution.isTerminal, status]; rfl
  have final := (versions_final bounds valid spared [.start (created pausing), .requestCancel "run"]).2 e stored ended
    [.start (created pausing), .resume parked none [], .resumeDue none []]
  exact ⟨valid, spared, e, stored, status, final.1⟩

end TriggerFlow.Trial
