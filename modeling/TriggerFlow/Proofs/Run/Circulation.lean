import TriggerFlow.Proofs.Run.Operations

/-!
# Everything that is stored makes sense

Runs are created, and whoever has a copy of one may hand it in again later: the copy that was created, one that was read
from the store, or one that an operation has given. All that is ever stored of any run makes sense, on any graph, and
also where the surroundings lose records; only a copy that waits is not to be started after they have lost its record.
-/

namespace TriggerFlow.Run

variable {σ : Type} {s : Surroundings σ} {k : Chronicle s} {limits : Limits} {d d' : Desk σ} {copies : List Execution}

/-- A run as it is created. -/
structure Fresh (e : Execution) : Prop where
  pending : e.status = .pending
  completedAt : e.completedAt = none
  wait : e.wait = none
  error : e.error = none
  log : e.log = []

theorem Fresh.wellFormed {e : Execution} (fresh : Fresh e) : e.WellFormed :=
  .fresh fresh.pending fresh.completedAt fresh.wait fresh.error

/-- The copy that an operation is carried out on. -/
def Operation.copy? : Operation → Option Execution
  | .start copy | .resume copy _ _ => some copy
  | _ => none

/-- Nobody starts a run by a copy that waits after the surroundings have lost the record of the run. Where they lose no
records there is nothing to it. -/
def Operation.Awake (k : Chronicle s) (d : Desk σ) : Operation → Prop
  | .start copy => copy.status = .waiting → ¬ s.Spares copy.id → k.record d.world copy.id ≠ none
  | _ => True

/-- A session with an engine. The list holds the copies that have been in anybody's hands. -/
inductive Circulation (k : Chronicle s) (limits : Limits) : Desk σ → List Execution → Prop
  | opened {d : Desk σ} (valid : k.valid d.world) (blank : ∀ id, k.record d.world id = none)
    (unwritten : ∀ id, k.history d.world id = []) : Circulation k limits d []
  /-- A run is created and stored. -/
  | created {d : Desk σ} {copies : List Execution} {e : Execution} {w : σ} (circulation : Circulation k limits d copies)
    (fresh : Fresh e) (new : ∀ c ∈ copies, c.id ≠ e.id) (unknown : k.record d.world e.id = none)
    (saved : s.save e d.world = (.ok (), w)) : Circulation k limits { d with world := w } (e :: copies)
  /-- A run is created and not stored. -/
  | made {d : Desk σ} {copies : List Execution} {e : Execution} (circulation : Circulation k limits d copies)
    (fresh : Fresh e) : Circulation k limits d (e :: copies)
  /-- Somebody reads the stored record. -/
  | read {d : Desk σ} {copies : List Execution} {id : String} {e : Execution}
    (circulation : Circulation k limits d copies) (stored : k.record d.world id = some e) : Circulation k limits d (e :: copies)
  /-- Time passes. -/
  | passed {d : Desk σ} {copies : List Execution} {w : σ} (circulation : Circulation k limits d copies)
    (same : k.Same d.world w) (notes : k.notes w = k.notes d.world) : Circulation k limits { d with world := w } copies
  | operated {d : Desk σ} {copies : List Execution} (circulation : Circulation k limits d copies)
    (operation : Operation) (mem : ∀ c ∈ operation.copy?, c ∈ copies) (awake : operation.Awake k d) :
    Circulation k limits (operation.after s limits d)
      ((operation.carryOut s limits d).1.toOption.getD [] ++ copies)

/-- A copy that makes sense, and that has not begun if the stored record has not. If it waits, there is a stored record,
unless it has been lost. -/
structure Handy (k : Chronicle s) (d : Desk σ) (c : Execution) : Prop where
  wellFormed : c.WellFormed
  early : ∀ e, k.record d.world c.id = some e → e.status = .pending → c.status = .pending
  kept : s.Spares c.id → c.status = .waiting → k.record d.world c.id ≠ none

/-- All versions that have been stored make sense, and all copies are handy. -/
structure Tidy (k : Chronicle s) (copies : List Execution) (d : Desk σ) : Prop where
  valid : k.valid d.world
  versions : ∀ id, ∀ v ∈ k.history d.world id, v.WellFormed
  records : ∀ id e, k.record d.world id = some e → e.WellFormed
  copies : ∀ c ∈ copies, Handy k d c

namespace Tidy

variable (tidy : Tidy k copies d)

include tidy

/-- A copy in circulation stays handy. -/
theorem handy_of_mem (progress : Progress k True d d') {c : Execution} (mem : c ∈ copies) : Handy k d' c := by
  have handy := tidy.copies c mem
  refine ⟨handy.wellFormed, ?_, fun spares waits => progress.kept spares (handy.kept spares waits)⟩
  intro e stored pending
  obtain ⟨r, known, was⟩ := progress.was_pending stored pending
  exact handy.early r known was

/-- What has been read from the store is handy. -/
theorem handy_of_stored (progress : Progress k True d d') {id : String} {r : Execution}
    (known : k.record d.world id = some r) : Handy k d' r := by
  rw [← k.id_of_record tidy.valid known] at known
  refine ⟨tidy.records r.id r known, ?_, fun spares _ => progress.kept spares (by simp [known])⟩
  intro e stored pending
  obtain ⟨r', known', was⟩ := progress.was_pending stored pending
  rw [known] at known'
  exact Option.some.inj known' ▸ was

/-- What has been driven is handy. -/
theorem handy_of_conducted {own : Prop} {expected : Status} {e : Execution} {driven : Driven}
    (conducted : Conducted k own expected e d driven d') (driver : own) (progress : Progress k True d d')
    (mem : e ∈ copies) : Handy k d' driven.copy ∧ Handy k d' driven.answer := by
  have copy : Handy k d' driven.copy := by
    rcases conducted.outcome with ⟨same, -, -⟩ | ⟨-, begun, stored⟩
    · exact same ▸ tidy.handy_of_mem progress mem
    refine ⟨conducted.wellFormed driver (tidy.copies e mem).wellFormed, ?_, ?_⟩
    · intro x known pending
      rw [conducted.sameRun.id] at known
      rcases stored with now | ⟨lost, -⟩
      · rw [now] at known
        exact absurd (Option.some.inj known ▸ pending) begun
      · rw [lost] at known
        cases known
    · intro _ waits
      rw [conducted.sameRun.id]
      rcases stored with now | ⟨-, ended⟩
      · simp [now]
      · rw [Execution.lives_of_waiting waits] at ended
        cases ended
  rcases conducted.answer with same | known
  · exact ⟨copy, same ▸ copy⟩
  · exact ⟨copy, tidy.handy_of_stored progress known⟩

/-- Records and copies stay in order while all that is stored makes sense. -/
theorem step (progress : Progress k True d d') {more : List Execution} (handy : ∀ c ∈ more, Handy k d' c) :
    Tidy k (more ++ copies) d' := by
  refine ⟨progress.valid, ?_, ?_, ?_⟩
  · intro id v mem
    obtain ⟨new, history, written⟩ := progress.written id
    rw [history] at mem
    rcases List.mem_append.mp mem with old | fresh
    · exact tidy.versions id v old
    · exact (written.wellFormed trivial (tidy.records id)).1 v fresh
  · intro id e stored
    obtain ⟨new, -, written⟩ := progress.written id
    exact (written.wellFormed trivial (tidy.records id)).2 e stored
  · intro c mem
    rcases List.mem_append.mp mem with fresh | old
    · exact handy c fresh
    · exact tidy.handy_of_mem progress old

theorem start_handy (limits : Limits) {e : Execution} (mem : e ∈ copies)
    (awake : e.status = .waiting → ¬ s.Spares e.id → k.record d.world e.id ≠ none) : (start s limits e).Ensures d
      (fun driven d' => Progress k True d d' ∧ Handy k d' driven.copy ∧ Handy k d' driven.answer)
      fun _ d' => Progress k True d d' := by
  apply (start_conducted limits tidy.valid e).mono
  · intro driven d' conducted
    by_cases waits : e.status = .waiting
    · -- the stored record has moved on, since it is not pending
      have present : k.record d.world e.id ≠ none := by
        by_cases spares : s.Spares e.id
        · exact (tidy.copies e mem).kept spares waits
        · exact awake waits spares
      obtain ⟨r, known⟩ := Option.ne_none_iff_exists'.mp present
      have differs : r.status ≠ .pending := by
        intro pending
        have early := (tidy.copies e mem).early r known pending
        rw [waits] at early
        cases early
      obtain ⟨copy, same, notes, -⟩ := conducted.untouched known differs
      have progress : Progress k True d d' := .of_same same notes
      have handy : Handy k d' driven.copy := copy ▸ tidy.handy_of_mem progress mem
      rcases conducted.answer with same | stored
      · exact ⟨progress, handy, same ▸ handy⟩
      · exact ⟨progress, handy, tidy.handy_of_stored progress stored⟩
    · have driver : e.WellFormed ∧ e.status ≠ .waiting := ⟨(tidy.copies e mem).wellFormed, waits⟩
      have progress : Progress k True d d' := .of_conducted rfl conducted fun _ => driver
      exact ⟨progress, tidy.handy_of_conducted conducted driver progress mem⟩
  · rintro _ d' ⟨rfl, -⟩
    exact .refl tidy.valid

theorem resume_handy (limits : Limits) {e : Execution} (mem : e ∈ copies) (time : Option Instant) (context : Members) :
    (resume s limits e time context).Ensures d
      (fun driven d' => Progress k True d d' ∧ Handy k d' driven.copy ∧ Handy k d' driven.answer)
      fun _ _ => False := by
  apply (resume_conducted limits tidy.valid e time context).mono _ fun _ _ none => none
  rintro driven d' (⟨rfl, rfl⟩ | ⟨-, conducted⟩)
  · exact ⟨.refl tidy.valid, tidy.copies e mem, tidy.copies e mem⟩
  · have driver := (tidy.copies e mem).wellFormed
    have progress : Progress k True d d' := .of_conducted rfl conducted fun _ => driver
    exact ⟨progress, tidy.handy_of_conducted conducted driver progress mem⟩

end Tidy

/-- The copies that have moved make sense if those that were found do. -/
theorem resumeEach_wellFormed (limits : Limits) (time : Option Instant) (context : Members) :
    ∀ (found : List Execution) {d : Desk σ}, k.valid d.world → (∀ e ∈ found, e.WellFormed) →
      (resumeEach s limits time context found).Ensures d
        (fun moved _ => ∀ c ∈ moved, c.WellFormed ∧ ∃ e ∈ found, c.id = e.id) fun _ _ => True
  | [], _, _, _ => List.forall_mem_nil _
  | e :: rest, d, valid, sense => by
    have first := (resume_conducted (k := k) limits valid e time context).and
      (resume_progress (k := k) limits valid e time context)
    apply Act.ensures_bind.mpr
    apply first.mono _ fun _ _ _ => trivial
    rintro driven d₁ ⟨conducted, progress⟩
    have copy : driven.copy.WellFormed ∧ driven.copy.id = e.id := by
      have sense := sense e List.mem_cons_self
      rcases conducted with ⟨rfl, -⟩ | ⟨-, conducted⟩
      · exact ⟨sense, rfl⟩
      · exact ⟨conducted.wellFormed sense sense, conducted.sameRun.id⟩
    have others := resumeEach_wellFormed limits time context rest progress.valid fun e' mem =>
      sense e' (List.mem_cons_of_mem _ mem)
    apply Act.ensures_bind.mpr
    apply others.mono _ fun _ _ _ => trivial
    intro moved d₂ later
    have rest_mem : ∀ c ∈ moved, c.WellFormed ∧ ∃ e' ∈ e :: rest, c.id = e'.id := by
      intro c mem
      obtain ⟨sense, e', mem', own⟩ := later c mem
      exact ⟨sense, e', List.mem_cons_of_mem _ mem', own⟩
    split
    · exact List.forall_mem_cons.mpr ⟨⟨copy.1, e, List.mem_cons_self, copy.2⟩, rest_mem⟩
    · exact rest_mem

theorem Tidy.resumeDue_handy (tidy : Tidy k copies d) (limits : Limits) (time : Option Instant) (context : Members) :
    (resumeDue s limits time context).Ensures d
      (fun moved d' => Progress k True d d' ∧ ∀ c ∈ moved, Handy k d' c) fun _ d' => Progress k True d d' := by
  have progress := (resumeDue_progress (k := k) limits tidy.valid time context).mono
    (fun _ _ progress => progress.mono fun _ : True => tidy.records)
    fun _ _ progress => progress.mono fun _ : True => tidy.records
  have moves : (resumeDue s limits time context).Ensures d
      (fun moved _ => ∀ c ∈ moved, c.WellFormed ∧ ∃ r, k.record d.world c.id = some r ∧ r.status = .waiting)
      fun _ _ => True := by
    apply Act.ensures_bind.mpr
    apply Act.ensures_onPart.mpr
    apply (k.waiting tidy.valid).mono _ fun _ _ _ => trivial
    rintro found w ⟨same, -, stored⟩
    have sense : ∀ e ∈ found, e.WellFormed := fun e mem => tidy.records e.id e (stored e mem).1
    apply (resumeEach_wellFormed limits time context found (by exact same.valid) sense).mono _ fun _ _ _ => trivial
    intro moved d' wellFormed c mem
    obtain ⟨sense, e, mem', own⟩ := wellFormed c mem
    obtain ⟨known, waits⟩ := stored e mem'
    exact ⟨sense, e, own ▸ known, waits⟩
  apply (progress.and moves).mono _ fun _ _ both => both.1
  rintro moved d' ⟨progress, moves⟩
  refine ⟨progress, ?_⟩
  intro c mem
  obtain ⟨sense, r, known, waits⟩ := moves c mem
  refine ⟨sense, ?_, fun spares _ => progress.kept spares (by simp [known])⟩
  intro e stored pending
  obtain ⟨r', known', was⟩ := progress.was_pending stored pending
  rw [known] at known'
  rw [← Option.some.inj known', waits] at was
  cases was

theorem Tidy.requestCancel_handy (tidy : Tidy k copies d) (id : String) : (requestCancel s id).Ensures d
    (fun answer d' => Progress k True d d' ∧ ∀ c ∈ answer, Handy k d' c) fun _ d' => Progress k True d d' := by
  have asked := requestCancel_asked (k := k) tidy.valid id
  apply (asked.and (requestCancel_answered (k := k) tidy.valid id)).mono
  · rintro answer d' ⟨asked, answered⟩
    have progress : Progress k True d d' := .of_asked asked
    refine ⟨progress, ?_⟩
    intro c mem
    cases answered with
    | driven => cases mem
    | @cancelled r _ _ stored waits ended noted now =>
      have same : cancelledAt r ended noted = c := Option.some.inj mem
      have own : c.id = id := by
        rw [← same]
        show r.id = id
        exact k.id_of_record tidy.valid stored
      constructor
      · rw [← same]
        exact .cancelledAt ((tidy.records id r stored).error_eq (Execution.lives_of_waiting waits)) ended noted
      · intro e known pending
        rw [own, now] at known
        rw [← Option.some.inj known] at pending
        cases pending
      · intro _ _
        simp [own, now]
    | noted _ stored => exact Option.some.inj mem ▸ tidy.handy_of_stored progress stored
    | left _ stored => exact Option.some.inj mem ▸ tidy.handy_of_stored progress stored
  · rintro _ d' ⟨asked, -⟩
    exact .of_asked asked

/-- What any operation gives is handy. -/
theorem Tidy.carryOut_handy (tidy : Tidy k copies d) (limits : Limits) (operation : Operation)
    (mem : ∀ c ∈ operation.copy?, c ∈ copies) (awake : operation.Awake k d) :
    (operation.carryOut s limits).Ensures d
      (fun more d' => Progress k True d d' ∧ ∀ c ∈ more, Handy k d' c) fun _ d' => Progress k True d d' := by
  have two {driven : Driven} {d' : Desk σ} (handy : Handy k d' driven.copy ∧ Handy k d' driven.answer) :
      ∀ c ∈ [driven.answer, driven.copy], Handy k d' c := by
    simp [handy.1, handy.2]
  cases operation with
  | start copy =>
    apply Act.ensures_bind.mpr
    exact (tidy.start_handy limits (mem copy rfl) awake).mono (fun _ _ ⟨progress, handy⟩ => ⟨progress, two handy⟩)
      fun _ _ progress => progress
  | resume copy time context =>
    apply Act.ensures_bind.mpr
    exact (tidy.resume_handy limits (mem copy rfl) time context).mono
      (fun _ _ ⟨progress, handy⟩ => ⟨progress, two handy⟩) fun _ _ none => none.elim
  | resumeDue time context => exact tidy.resumeDue_handy limits time context
  | requestCancel id =>
    apply Act.ensures_bind.mpr
    apply (tidy.requestCancel_handy id).mono _ fun _ _ progress => progress
    rintro answer d' ⟨progress, handy⟩
    exact ⟨progress, fun c mem => handy c (by simpa using mem)⟩
  | claim id =>
    apply Act.ensures_bind.mpr
    apply ensures_claim.mpr
    split
    · exact ⟨.refl tidy.valid, List.forall_mem_nil _⟩
    · exact ⟨.of_world tidy.valid rfl, List.forall_mem_nil _⟩
  | release id => exact ⟨.of_world tidy.valid rfl, List.forall_mem_nil _⟩

theorem Fresh.handy {e : Execution} (fresh : Fresh e) : Handy k d e where
  wellFormed := fresh.wellFormed
  early _ _ _ := fresh.pending
  kept _ waits := by
    rw [fresh.pending] at waits
    cases waits

theorem Circulation.tidy (circulation : Circulation k limits d copies) : Tidy k copies d := by
  induction circulation with
  | opened valid blank unwritten =>
    refine ⟨valid, ?_, ?_, List.forall_mem_nil _⟩
    · intro id v mem
      rw [unwritten id] at mem
      cases mem
    · intro id e stored
      rw [blank id] at stored
      cases stored
  | @created d copies e w _ fresh new unknown saved ih =>
    have becomes := (k.save ih.valid e).of_ok saved
    have notes := (k.save_notes ih.valid e).of_ok saved
    refine ⟨becomes.valid, ?_, ?_, List.forall_mem_cons.mpr ⟨fresh.handy, ?_⟩⟩
    · intro id v mem
      rw [Chronicle.history_append notes] at mem
      rcases List.mem_append.mp mem with old | written
      · exact ih.versions id v old
      · rw [versions_wrote] at written
        split at written
        · exact List.mem_singleton.mp written ▸ fresh.wellFormed
        · cases written
    · intro id x stored
      rw [becomes.record] at stored
      by_cases own : id = e.id
      · rw [own, Function.update_self] at stored
        exact Option.some.inj stored ▸ fresh.wellFormed
      · rw [Function.update_of_ne own] at stored
        exact ih.records id x stored
    · intro c mem
      have same : k.record w c.id = k.record d.world c.id := by
        rw [becomes.record, Function.update_of_ne (new c mem)]
      have handy := ih.copies c mem
      exact ⟨handy.wellFormed, same ▸ handy.early, same ▸ handy.kept⟩
  | made _ fresh ih => exact ⟨ih.valid, ih.versions, ih.records, List.forall_mem_cons.mpr ⟨fresh.handy, ih.copies⟩⟩
  | read _ stored ih =>
    have handy := ih.handy_of_stored (.refl ih.valid) stored
    exact ⟨ih.valid, ih.versions, ih.records, List.forall_mem_cons.mpr ⟨handy, ih.copies⟩⟩
  | passed _ same notes ih => exact ih.step (.of_same same notes) (List.forall_mem_nil _)
  | @operated d copies _ operation mem awake ih =>
    have handy := ih.carryOut_handy limits operation mem awake
    unfold Act.Ensures at handy
    unfold Operation.after
    rcases run : operation.carryOut s limits d with ⟨failure | more, d'⟩ <;> rw [run] at handy
    · exact ih.step handy (List.forall_mem_nil _)
    · exact ih.step handy.1 handy.2

end TriggerFlow.Run

namespace TriggerFlow.Trial

open TriggerFlow.Graph (pausing)
open TriggerFlow.Run

/-- The desk of a small world in which there is no run. -/
def unoccupied : Run.Desk (World Unit × List Note) := ⟨[], [], ⟨⟨nine, 0, [], .memory ⟨[], [], []⟩⟩, (), []⟩, []⟩

/-- That desk after a run that waits a minute has been created and stored. -/
def occupied : Run.Desk (World Unit × List Note) :=
  { unoccupied with world := (recording.save (created pausing) unoccupied.world).2 }

theorem occupied_circulation : Circulation chronicle bounds occupied [created pausing] := by
  have opened : Circulation chronicle bounds unoccupied [] :=
    .opened ⟨⟨_, rfl⟩, Ordered.Indexed.nil, .nil⟩ (fun _ => rfl) fun _ => rfl
  exact opened.created ⟨rfl, rfl, rfl, rfl, rfl⟩ (List.forall_mem_nil _) rfl rfl

/-- That desk after the run has been started and cancelled. -/
def vacated : Run.Desk (World Unit × List Note) :=
  Operation.after recording bounds (.requestCancel "run")
    (Operation.after recording bounds (.start (created pausing)) occupied)

theorem vacated_circulation : ∃ copies, Circulation chronicle bounds vacated copies := by
  have started := occupied_circulation.operated (.start (created pausing)) (by simp [Operation.copy?]) (by
    intro waits
    cases waits)
  exact ⟨_, started.operated (.requestCancel "run") (by simp [Operation.copy?]) trivial⟩

theorem vacated_versions : ((chronicle.history vacated.world "run").map Execution.status) =
    [.pending, .running, .running, .waiting, .waiting, .cancelled] := by decide +kernel

attribute [irreducible] vacated

end TriggerFlow.Trial
