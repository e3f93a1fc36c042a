import TriggerFlow.Proofs.Run.Whole
import TriggerFlow.Proofs.World

/-!
# Copies of a record

Copies of the record of a run go round while the stored record moves on. A run is started and resumed by any of
them. Nothing of the stored log is lost, and nothing is sent out twice, as long as nobody resumes a waiting run
by a copy that waits elsewhere: the state alone does not tell such a copy from the stored record.
-/

namespace TriggerFlow.Run

variable {σ : Type} {s : Surroundings σ} {k : Ledger s} {g : Graph} {limits : Limits} {id : String}
  {d d' d'' : Desk σ} {c r r' r'' : Execution} {copies : List Execution} {rank : String → Nat}

/-- A copy that the stored record has left behind. -/
structure Past (g : Graph) (r c : Execution) : Prop where
  run : SameRun c r
  course : ∃ calls, Course g c calls
  log : c.log <+: r.log
  shorter : c.log.length < r.log.length

/-- A copy is the stored record, or has been left behind by it. -/
def Copy (g : Graph) (r c : Execution) : Prop := c = r ∨ Past g r c

namespace Copy

theorem sameRun (copy : Copy g r c) : SameRun c r := by
  rcases copy with rfl | past
  · exact .refl c
  · exact past.run

/-- The stored record moves on, and leaves its copies behind. -/
theorem moveOn (copy : Copy g r c) (course : ∃ calls, Course g r calls) (run : SameRun r r')
    (log : r.log <+: r'.log) (shorter : r.log.length < r'.log.length) : Copy g r' c := by
  rcases copy with rfl | past
  · exact .inr ⟨run, course, log, shorter⟩
  · exact .inr ⟨past.run.trans run, past.course, past.log.trans log, past.shorter.trans shorter⟩

/-- What has not begun has not been left behind. -/
theorem eq_of_pending (copy : Copy g r c) {calls : List Sending} (course : Course g r calls)
    (pending : r.status = .pending) : c = r := by
  rcases copy with rfl | past
  · rfl
  · have shorter := past.shorter
    rw [(course.pending pending).1.eq_nil_of_unbegun.1] at shorter
    cases shorter

/-- A copy that waits at the node where the stored record waits is the stored record. -/
theorem eq_of_parked (ranking : g.Ranking rank) (copy : Copy g r c) {calls : List Sending}
    (course : Course g r calls) (waits : c.status = .waiting) (still : r.status = .waiting)
    (here : c.nodeId = r.nodeId) : c = r := by
  rcases copy with rfl | past
  · rfl
  · obtain ⟨calls', course'⟩ := past.course
    obtain ⟨id, trail, at_id⟩ := course'.waiting waits
    obtain ⟨id', later, at_id'⟩ := course.waiting still
    cases (at_id.symm.trans here).trans at_id'
    obtain ⟨more, all⟩ := past.log
    rw [← all] at later
    have shorter := past.shorter
    rw [← all, trail.eq_nil_of_parked ranking later, List.append_nil] at shorter
    exact absurd shorter (Nat.lt_irrefl _)

end Copy

/-- A run whose stored record all copies in circulation are copies of. -/
structure Abiding (k : Ledger s) (g : Graph) (id : String) (copies : List Execution) (d : Desk σ)
    (r : Execution) : Prop where
  valid : k.valid d.world
  free : id ∉ d.active
  stored : k.record d.world id = some r
  graph : r.graph = g
  course : Course g r (k.calls d.world id)
  copies : ∀ c ∈ copies, Copy g r c

/-- The history goes on: the log is kept, and whatever is sent out belongs to nodes that were not logged. -/
structure Continues (k : Ledger s) (id : String) (d : Desk σ) (r : Execution) (d' : Desk σ) (r' : Execution) :
    Prop where
  log : r.log <+: r'.log
  new : ∃ new, k.calls d'.world id = k.calls d.world id ++ new ∧
    ∀ call ∈ new, ∀ entry ∈ r.log, entry.nodeId ≠ call.nodeId

namespace Continues

theorem of_calls (log : r.log <+: r'.log) (calls : k.calls d'.world id = k.calls d.world id) :
    Continues k id d r d' r' := ⟨log, [], by simp [calls], by simp⟩

theorem trans (h : Continues k id d r d' r') (h' : Continues k id d' r' d'' r'') :
    Continues k id d r d'' r'' := by
  obtain ⟨new, sent, fresh⟩ := h.new
  obtain ⟨new', sent', fresh'⟩ := h'.new
  refine ⟨h.log.trans h'.log, new ++ new', by rw [sent', sent, List.append_assoc], ?_⟩
  intro call mem
  rcases List.mem_append.mp mem with mem | mem
  · exact fresh call mem
  · exact fun entry logged => fresh' call mem entry (h.log.subset logged)

end Continues

/-- The history goes on from one desk to another. -/
def GoesOn (k : Ledger s) (g : Graph) (id : String) (copies : List Execution) (d : Desk σ) (r : Execution)
    (d' : Desk σ) : Prop := ∃ r', Abiding k g id copies d' r' ∧ Continues k id d r d' r'

namespace Abiding

theorem id_eq (abiding : Abiding k g id copies d r) : r.id = id := k.id_of_record abiding.valid abiding.stored

theorem refl (abiding : Abiding k g id copies d r) : GoesOn k g id copies d r d :=
  ⟨r, abiding, .of_calls (List.prefix_refl _) rfl⟩

/-- Nothing has changed that is kept of the runs. -/
theorem of_passed (abiding : Abiding k g id copies d r) (passed : Passed k d d') :
    Abiding k g id copies d' r ∧ Continues k id d r d' r := by
  have calls : k.calls d'.world id = k.calls d.world id := by simp [Books.calls, passed.same.sent]
  refine ⟨⟨passed.same.valid, passed.active ▸ abiding.free, ?_, abiding.graph, ?_, abiding.copies⟩,
    .of_calls (List.prefix_refl _) calls⟩
  · rw [passed.same.record]
    exact abiding.stored
  · exact calls ▸ abiding.course

/-- The record may have been cancelled, but not lost, while something else was done. -/
theorem of_meanwhile (abiding : Abiding k g id copies d r) (valid : k.valid d'.world)
    (active : d'.active = d.active) (meanwhile : Meanwhile (k.record d.world id) (k.record d'.world id))
    (kept : k.record d'.world id ≠ none) (calls : k.calls d'.world id = k.calls d.world id) :
    ∃ r', Abiding k g id copies d' r' ∧ Continues k id d r d' r' ∧ (r'.status = .waiting → r' = r) := by
  rw [abiding.stored] at meanwhile
  generalize record : k.record d'.world id = found at meanwhile kept
  generalize was : some r = known at meanwhile
  cases meanwhile with
  | same =>
    exact ⟨r, ⟨valid, active ▸ abiding.free, record.trans was.symm, abiding.graph,
      calls ▸ abiding.course, abiding.copies⟩, .of_calls (List.prefix_refl _) calls, fun _ => rfl⟩
  | cancelled e ended noted waits =>
    cases was
    have course : Course g (cancelledAt r ended noted) (k.calls d.world id) :=
      abiding.course.cancelledAt (lives_of_status waits rfl) ended noted
    have log : r.log <+: (cancelledAt r ended noted).log := List.prefix_append _ _
    refine ⟨_, ⟨valid, active ▸ abiding.free, record, abiding.graph, calls ▸ course, ?_⟩, .of_calls log calls, nofun⟩
    intro c mem
    exact (abiding.copies c mem).moveOn ⟨_, abiding.course⟩ ⟨rfl, rfl, rfl⟩ log (by simp [cancelledAt])
  | lost => exact absurd rfl kept

theorem of_around (abiding : Abiding k g id copies d r) (spares : s.Spares id) {other : String}
    (ne : id ≠ other) (around : Around k other d d') :
    ∃ r', Abiding k g id copies d' r' ∧ Continues k id d r d' r' ∧ (r'.status = .waiting → r' = r) :=
  abiding.of_meanwhile around.valid around.active (around.others id ne)
    (around.kept id spares (by simp [abiding.stored])) (around.calls_of_ne ne)

theorem of_requested (abiding : Abiding k g id copies d r) (asked : Requested k id d d') :
    GoesOn k g id copies d r d' := by
  obtain ⟨r', abiding', continues, -⟩ := abiding.of_meanwhile asked.valid asked.active asked.meanwhile
    (asked.kept (by simp [abiding.stored])) (by simp [Books.calls, asked.sent])
  exact ⟨r', abiding', continues⟩

/-- The stored record has been driven. -/
theorem of_ended (ranking : g.Ranking rank) (abiding : Abiding k g id copies d r) (spares : s.Spares id)
    (lives : r.isTerminal = false) {driven : Driven} (ended : Ended k g r d driven d') :
    Abiding k g id copies d' driven.copy ∧ Continues k id d r d' driven.copy := by
  obtain rfl := abiding.id_eq
  have kept := ended.drove.around.kept r.id spares (by simp [abiding.stored])
  have stored := ended.left.resolve_left kept
  have course := ended.course kept
  have run := ended.drove.own _ stored
  refine ⟨⟨ended.drove.around.valid, ended.drove.around.active ▸ abiding.free, stored,
    run.graph.trans abiding.graph, course, ?_⟩, ended.log, ?_⟩
  · intro c mem
    rcases ended.grown with ⟨same, -⟩ | longer
    · exact same ▸ abiding.copies c mem
    · exact (abiding.copies c mem).moveOn ⟨_, abiding.course⟩ run ended.log longer
  · obtain ⟨new, sent, -⟩ := ended.drove.around.sent
    have calls : k.calls d'.world r.id = k.calls d.world r.id ++ new.filter fun c => c.runId = r.id := by
      simp [Books.calls, sent]
    obtain ⟨stage, trail, -, -⟩ := abiding.course.exists_trail lives
    obtain ⟨body, stage', later⟩ := course.exists_body
    exact ⟨_, calls, trail.fresh_calls ranking (calls ▸ later)⟩

/-- More copies may be in circulation if each of them is a copy of the stored record. -/
theorem with_copies (abiding : Abiding k g id copies d r) {more : List Execution}
    (copy : ∀ c ∈ more, Copy g r c) : Abiding k g id more d r :=
  ⟨abiding.valid, abiding.free, abiding.stored, abiding.graph, abiding.course, copy⟩

theorem cons (abiding : Abiding k g id copies d r) (copy : Copy g r c) : Abiding k g id (c :: copies) d r :=
  abiding.with_copies (List.forall_mem_cons.mpr ⟨copy, abiding.copies⟩)

end Abiding

namespace GoesOn

/-- A copy that has been in circulation is still a copy. -/
theorem cons (goes : GoesOn k g id copies d r d') (mem : c ∈ copies) : GoesOn k g id (c :: copies) d r d' := by
  obtain ⟨r', abiding, continues⟩ := goes
  exact ⟨r', abiding.cons (abiding.copies c mem), continues⟩

theorem mono (goes : GoesOn k g id copies d r d') {fewer : List Execution} (sub : fewer ⊆ copies) :
    GoesOn k g id fewer d r d' := by
  obtain ⟨r', abiding, continues⟩ := goes
  exact ⟨r', abiding.with_copies fun c mem => abiding.copies c (sub mem), continues⟩

end GoesOn

/-- A copy is resumed without harm: it is not waiting, or the stored record is not, or both are parked at the
same node, or else the wait of the copy is not over and nobody has asked for a stop. -/
def Abreast (s : Surroundings σ) (d : Desk σ) (r c : Execution) (time : Option Instant) (context : Members) : Prop :=
  c.status = .waiting → r.status = .waiting → c.nodeId = r.nodeId ∨
    c.id ∉ d.cancels ∧ lookAt c (time.getD (s.now (s.load c.id d.world).2)) context = .ok .notDue

section Entries

variable (sound : g.Valid) (ranking : g.Ranking rank) (limits : Limits)
include sound ranking

theorem start_goesOn (abiding : Abiding k g id copies d r) (spares : s.Spares id) (mem : c ∈ copies) :
    (start s limits c).Ensures d (fun driven => GoesOn k g id (driven.copy :: copies) d r)
      fun _ => GoesOn k g id copies d r := by
  obtain rfl := abiding.id_eq
  have copy := abiding.copies c mem
  by_cases pending : r.status = .pending
  · obtain rfl := copy.eq_of_pending abiding.course pending
    refine (start_live sound limits abiding.valid abiding.free abiding.stored abiding.graph abiding.course
      pending).mono ?_ fun _ _ none => none.elim
    intro driven d' ended
    have lives : c.isTerminal = false := lives_of_status pending rfl
    obtain ⟨abiding', continues⟩ := abiding.of_ended ranking spares lives ended
    exact ⟨driven.copy, abiding'.cons (.inl rfl), continues⟩
  · have stored : k.record d.world c.id = some r := copy.sameRun.id ▸ abiding.stored
    refine (start_moved limits abiding.valid stored pending).mono ?_ ?_
    · rintro driven d' ⟨rfl, passed⟩
      exact GoesOn.cons ⟨r, abiding.of_passed passed⟩ mem
    · rintro _ d' rfl
      exact abiding.refl

theorem resume_goesOn (abiding : Abiding k g id copies d r) (spares : s.Spares id) (mem : c ∈ copies)
    (time : Option Instant) (context : Members) (abreast : Abreast s d r c time context) :
    (resume s limits c time context).Ensures d (fun driven => GoesOn k g id (driven.copy :: copies) d r)
      fun _ => GoesOn k g id copies d r := by
  obtain rfl := abiding.id_eq
  have copy := abiding.copies c mem
  have stored : k.record d.world c.id = some r := copy.sameRun.id ▸ abiding.stored
  by_cases still : r.status = .waiting
  · by_cases waits : c.status = .waiting
    · rcases abreast waits still with here | ⟨unasked, early⟩
      · obtain rfl := copy.eq_of_parked ranking abiding.course waits still here
        refine (resume_live sound limits time context abiding.valid abiding.free stored abiding.graph
          abiding.course still).mono ?_ fun _ _ none => none.elim
        intro driven d' ended
        have lives : c.isTerminal = false := lives_of_status still rfl
        obtain ⟨abiding', continues⟩ := abiding.of_ended ranking spares lives ended
        exact ⟨driven.copy, abiding'.cons (.inl rfl), continues⟩
      · have going : ∃ calls, Course g c calls := by
          rcases copy with rfl | past
          · exact ⟨_, abiding.course⟩
          · exact past.course
        obtain ⟨calls, course⟩ := going
        obtain ⟨id, trail, at_id⟩ := course.waiting waits
        obtain ⟨node, a, found, kind, parks⟩ := trail.parks
        have here : c.nodeId.bind c.graph.node? = some node := by
          rw [at_id, ← copy.sameRun.graph, abiding.graph, Option.bind_some, found]
        refine (resume_early limits time context abiding.valid (copy.sameRun.id ▸ abiding.free) unasked stored
          still waits here kind parks early).mono ?_ fun _ _ none => none.elim
        rintro driven d' ⟨rfl, -, passed⟩
        exact GoesOn.cons ⟨r, abiding.of_passed passed⟩ mem
    · rw [resume, if_pos waits]
      exact abiding.refl.cons mem
  · refine (resume_moved limits time context abiding.valid stored still).mono ?_ fun _ _ none => none.elim
    rintro driven d' ⟨rfl, passed⟩
    exact GoesOn.cons ⟨r, abiding.of_passed passed⟩ mem

/-- A record that was found waiting is resumed, be it one of this run or of another one. -/
theorem resume_found (abiding : Abiding k g id copies d r) (spares : s.Spares id) (time : Option Instant)
    (context : Members) {e : Execution} (fresh : e.id = id → e ∈ copies ∧ (r.status = .waiting → e = r))
    (own : ∀ e', k.record d.world e.id = some e' → SameRun e e') : (resume s limits e time context).Ensures d
      (fun driven d₁ => Drove k e d d₁ ∧ ∃ r₁, Abiding k g id ([driven.copy].filter (·.id = id) ++ copies) d₁ r₁ ∧
        Continues k id d r d₁ r₁ ∧ (e.id ≠ id → r₁.status = .waiting → r₁ = r))
      fun _ => GoesOn k g id copies d r := by
  have frame := resume_frame (s := s) limits time context abiding.valid own
  by_cases same : e.id = id
  · obtain ⟨mem, still⟩ := fresh same
    have goes := resume_goesOn sound ranking limits abiding spares mem time context
      fun _ waits => .inl (congrArg _ (still waits))
    refine (goes.and frame).mono ?_ fun _ _ goes => goes.1
    rintro driven d₁ ⟨⟨r₁, abiding₁, continues⟩, drove, run, -⟩
    have here : [driven.copy].filter (·.id = id) = [driven.copy] := by simp [run.id, same]
    refine ⟨drove, r₁, ?_, continues, fun other => absurd same other⟩
    rw [here]
    exact abiding₁
  · have next {d₁ : Desk σ} (drove : Drove k e d d₁) := abiding.of_around spares (Ne.symm same) drove.around
    refine frame.mono ?_ ?_
    · rintro driven d₁ ⟨drove, run, -⟩
      obtain ⟨r₁, abiding₁, continues, still⟩ := next drove
      have foreign : [driven.copy].filter (·.id = id) = [] := by simp [run.id, same]
      refine ⟨drove, r₁, ?_, continues, fun _ => still⟩
      rw [foreign]
      exact abiding₁
    · intro _ d₁ drove
      obtain ⟨r₁, abiding₁, continues, -⟩ := next drove
      exact ⟨r₁, abiding₁, continues⟩

/-- The records that were found waiting are resumed one after the other. By the time when its turn comes, the
record of a run may have been cancelled. -/
theorem resumeEach_goesOn (spares : s.Spares id) (time : Option Instant) (context : Members) :
    ∀ {found : List Execution} {copies : List Execution} {d : Desk σ} {r : Execution},
      Abiding k g id copies d r → (found.map Execution.id).Nodup →
      (∀ e ∈ found, e.id = id → e ∈ copies ∧ (r.status = .waiting → e = r)) →
      (∀ e ∈ found, ∀ e', k.record d.world e.id = some e' → SameRun e e') →
        (resumeEach s limits time context found).Ensures d
          (fun moved => GoesOn k g id (moved.filter (·.id = id) ++ copies) d r)
          fun _ => GoesOn k g id copies d r
  | [], copies, d, r, abiding, _, _, _ => abiding.refl
  | e :: rest, copies, d, r, abiding, nodup, fresh, own => by
    obtain ⟨once, nodup⟩ := List.nodup_cons.mp nodup
    have alone {e' : Execution} (mem : e' ∈ rest) : e'.id ≠ e.id := fun same =>
      once (List.mem_map.mpr ⟨e', mem, same⟩)
    refine Act.ensures_bind.mpr ((resume_found sound ranking limits abiding spares time context
      (fresh e List.mem_cons_self) (own e List.mem_cons_self)).mono ?_ fun _ _ goes => goes)
    rintro driven d₁ ⟨drove, r₁, abiding₁, continues, still⟩
    have fresh₁ : ∀ e' ∈ rest, e'.id = id →
        e' ∈ [driven.copy].filter (·.id = id) ++ copies ∧ (r₁.status = .waiting → e' = r₁) := by
      intro e' mem here
      obtain ⟨known, fresh⟩ := fresh e' (List.mem_cons_of_mem _ mem) here
      refine ⟨List.mem_append_right _ known, ?_⟩
      intro waits
      obtain rfl := still (fun same => alone mem (here.trans same.symm)) waits
      exact fresh waits
    have own₁ : ∀ e' ∈ rest, ∀ x, k.record d₁.world e'.id = some x → SameRun e' x := fun e' mem =>
      (drove.around.others _ (alone mem)).own (own e' (List.mem_cons_of_mem _ mem))
    refine Act.ensures_bind.mpr ((resumeEach_goesOn spares time context abiding₁ nodup fresh₁ own₁).mono ?_ ?_)
    · rintro moved d₂ ⟨r₂, abiding₂, continues₂⟩
      have goes : GoesOn k g id (moved.filter (·.id = id) ++ ([driven.copy].filter (·.id = id) ++ copies)) d r d₂ :=
        ⟨r₂, abiding₂, continues.trans continues₂⟩
      split
      · refine goes.mono ?_
        intro c mem
        simp only [List.filter_cons, List.mem_append] at mem ⊢
        grind
      · refine goes.mono ?_
        intro c mem
        simp only [List.mem_append] at mem ⊢
        grind
    · rintro _ d₂ ⟨r₂, abiding₂, continues₂⟩
      exact GoesOn.mono ⟨r₂, abiding₂, continues.trans continues₂⟩ (List.subset_append_right _ _)

theorem resumeDue_goesOn (abiding : Abiding k g id copies d r) (spares : s.Spares id) (time : Option Instant)
    (context : Members) : (resumeDue s limits time context).Ensures d
      (fun moved => GoesOn k g id (moved.filter (·.id = id) ++ copies) d r)
      fun _ => GoesOn k g id copies d r := by
  refine Act.ensures_bind.mpr (Act.ensures_onPart.mpr ((k.waiting abiding.valid).mono ?_ ?_))
  · rintro found w ⟨same, nodup, stored⟩
    have passed : Passed k d { d with world := w } := ⟨rfl, same⟩
    obtain ⟨abiding₁, continues⟩ := abiding.of_passed passed
    have each := resumeEach_goesOn sound ranking limits spares time context (abiding₁.cons (.inl rfl)) nodup
      (fun e mem here => by
        have known := (stored e mem).1
        rw [here, abiding.stored] at known
        cases known
        exact ⟨List.mem_cons_self, fun _ => rfl⟩)
      fun e mem e' present => by
        rw [same.record, (stored e mem).1] at present
        cases present
        exact .refl e
    refine each.mono ?_ ?_
    · rintro moved d' ⟨r', abiding', continues'⟩
      exact GoesOn.mono ⟨r', abiding', continues.trans continues'⟩ (by simp)
    · rintro _ d' ⟨r', abiding', continues'⟩
      exact GoesOn.mono ⟨r', abiding', continues.trans continues'⟩ (List.subset_cons_self _ _)
  · intro _ w same
    have passed : Passed k d { d with world := w } := ⟨rfl, same⟩
    exact ⟨r, abiding.of_passed passed⟩

end Entries

/-- What is asked of the runs by way of copies. -/
inductive Call where
  | start (c : Execution)
  | resume (c : Execution) (time : Option Instant) (context : Members)
  | resumeDue (time : Option Instant) (context : Members)
  | requestCancel
  deriving DecidableEq, Repr

namespace Call

/-- Carries a call out and gives the copies of the run that have come of it. -/
def carryOut (s : Surroundings σ) (limits : Limits) (id : String) : Call → Act (Desk σ) (List Execution)
  | start c => do return [(← Run.start s limits c).copy]
  | resume c time context => do return [(← Run.resume s limits c time context).copy]
  | resumeDue time context => do return (← Run.resumeDue s limits time context).filter (·.id = id)
  | requestCancel => do
    let _ ← Run.requestCancel s id
    return []

theorem carryOut_start_state (c : Execution) (d : Desk σ) :
    ((start c).carryOut s limits id d).2 = (Run.start s limits c d).2 := by
  rcases run : Run.start s limits c d with ⟨_ | driven, d'⟩
  · exact congrArg Prod.snd (Act.bind_run_error run _)
  · exact congrArg Prod.snd (Act.bind_run_ok run _)

/-- The copy that a call is made with. -/
def copy? : Call → Option Execution
  | start c | resume c _ _ => some c
  | _ => none

/-- A call does no harm to the stored record. -/
def Harmless (s : Surroundings σ) (d : Desk σ) (r : Execution) : Call → Prop
  | resume c time context => Abreast s d r c time context
  | _ => True

end Call

theorem call_goesOn (sound : g.Valid) (ranking : g.Ranking rank) (limits : Limits) {call : Call}
    (abiding : Abiding k g id copies d r) (spares : s.Spares id) (mem : ∀ c ∈ call.copy?, c ∈ copies)
    (harmless : call.Harmless s d r) : (call.carryOut s limits id).Ensures d
      (fun more => GoesOn k g id (more ++ copies) d r) fun _ => GoesOn k g id copies d r := by
  cases call with
  | start c =>
    exact Act.ensures_bind.mpr (start_goesOn sound ranking limits abiding spares (mem c rfl))
  | resume c time context =>
    exact Act.ensures_bind.mpr (resume_goesOn sound ranking limits abiding spares (mem c rfl) time context harmless)
  | resumeDue time context =>
    exact Act.ensures_bind.mpr (resumeDue_goesOn sound ranking limits abiding spares time context)
  | requestCancel =>
    exact Act.ensures_bind.mpr ((requestCancel_spec abiding.valid id).mono
      (fun _ _ asked => abiding.of_requested asked) fun _ _ asked => abiding.of_requested asked)

/-- A session with a run: its record is created, and calls are made by copies of it. The second list holds the
copies that have been in anybody's hands. -/
inductive Session (k : Ledger s) (limits : Limits) (g : Graph) (id : String) : Desk σ → List Execution → Prop where
  | created {d : Desk σ} {e : Execution} (valid : k.valid d.world) (free : id ∉ d.active)
    (stored : k.record d.world id = some e) (graph : e.graph = g) (pending : e.status = .pending)
    (blank : e.log = [] ∧ e.nodeId = none) (unsent : k.calls d.world id = []) : Session k limits g id d [e]
  /-- Somebody reads the stored record. -/
  | read {d : Desk σ} {copies : List Execution} {e : Execution} (session : Session k limits g id d copies)
    (stored : k.record d.world id = some e) : Session k limits g id d (e :: copies)
  /-- Time passes, or another run is driven. -/
  | aside {d d' : Desk σ} {copies : List Execution} {other : String} (session : Session k limits g id d copies)
    (ne : id ≠ other) (around : Around k other d d') : Session k limits g id d' copies
  | called {d : Desk σ} {copies : List Execution} {r : Execution} (session : Session k limits g id d copies)
    (call : Call) (mem : ∀ c ∈ call.copy?, c ∈ copies) (stored : k.record d.world id = some r)
    (harmless : call.Harmless s d r) :
    Session k limits g id (call.carryOut s limits id d).2
      ((call.carryOut s limits id d).1.toOption.getD [] ++ copies)

theorem Session.abiding (sound : g.Valid) (ranking : g.Ranking rank) (spares : s.Spares id)
    (session : Session k limits g id d copies) : ∃ r, Abiding k g id copies d r := by
  induction session with
  | @created d e valid free stored graph pending blank unsent =>
    refine ⟨e, valid, free, stored, graph, ?_, by simp [Copy]⟩
    have trail : Trail g e.log (k.calls d.world id) .unbegun := by
      rw [blank.1, unsent]
      exact .unbegun
    exact .going trail pending blank.2
  | read session stored ih =>
    obtain ⟨r, abiding⟩ := ih
    cases stored.symm.trans abiding.stored
    exact ⟨_, abiding.cons (.inl rfl)⟩
  | aside session ne around ih =>
    obtain ⟨r, abiding⟩ := ih
    obtain ⟨r', abiding', -⟩ := abiding.of_around spares ne around
    exact ⟨r', abiding'⟩
  | @called d copies r session call mem stored harmless ih =>
    obtain ⟨r₀, abiding⟩ := ih
    cases stored.symm.trans abiding.stored
    have goes := call_goesOn sound ranking limits abiding spares mem harmless
    unfold Act.Ensures at goes
    rcases run : call.carryOut s limits id d with ⟨_ | more, d'⟩ <;> rw [run] at goes
    · obtain ⟨r', abiding', -⟩ := goes
      exact ⟨r', abiding'⟩
    · obtain ⟨r', abiding', -⟩ := goes
      exact ⟨r', abiding'⟩

/-- No history is lost by a call that does no harm: the stored log goes on, no node is sent out twice, and
whatever is sent out belongs to nodes without an entry in the stored log. -/
theorem Session.keeps_history (defects : g.defects = .ok []) (spares : s.Spares id)
    (session : Session k limits g id d copies) {r : Execution} (stored : k.record d.world id = some r)
    (call : Call) (mem : ∀ c ∈ call.copy?, c ∈ copies) (harmless : call.Harmless s d r) :
    ∃ r', k.record (call.carryOut s limits id d).2.world id = some r' ∧ r.log <+: r'.log ∧
      ((k.calls (call.carryOut s limits id d).2.world id).map Sending.nodeId).Nodup ∧
      ∃ new, k.calls (call.carryOut s limits id d).2.world id = k.calls d.world id ++ new ∧
        ∀ sending ∈ new, ∀ entry ∈ r.log, entry.nodeId ≠ sending.nodeId := by
  have sound := Graph.valid_of_defects defects
  obtain ⟨rank, ranking⟩ := sound.ranked
  obtain ⟨r₀, abiding⟩ := session.abiding sound ranking spares
  cases stored.symm.trans abiding.stored
  have goes : GoesOn k g id copies d r (call.carryOut s limits id d).2 :=
    Act.Ensures.state ((call_goesOn sound ranking limits abiding spares mem harmless).mono
      (fun _ _ goes => goes.mono (List.subset_append_right _ _)) fun _ _ goes => goes)
  obtain ⟨r', abiding', log, new, sent, fresh⟩ := goes
  obtain ⟨body, stage, trail⟩ := abiding'.course.exists_body
  exact ⟨r', abiding'.stored, log, trail.calls_nodup ranking, new, sent, fresh⟩

section Trial

open TriggerFlow.Trial
open TriggerFlow.Graph (pausing pausing_sound)

/-- Starting a run once more by the copy that it was created with does no harm. -/
theorem started_twice : pausing.defects = .ok [] ∧ surroundings.Spares "run" ∧
    ∃ copies, Session books bounds pausing "run" afterStart copies ∧ created pausing ∈ copies ∧
      books.record afterStart.world "run" = some parked ∧
      ∃ r', books.record ((Call.start (created pausing)).carryOut surroundings bounds "run" afterStart).2.world
        "run" = some r' ∧ parked.log <+: r'.log := by
  have begins : Session books bounds pausing "run" (atNine pausing) [created pausing] :=
    .created (atNine_valid pausing) (by decide +kernel) (created_stored pausing) rfl rfl ⟨rfl, rfl⟩
      (by decide +kernel)
  have session := begins.called (.start (created pausing)) (by simp [Call.copy?]) (created_stored pausing) trivial
  rw [Call.carryOut_start_state, ← afterStart_eq] at session
  have known : created pausing ∈ (((Call.start (created pausing)).carryOut surroundings bounds "run"
      (atNine pausing)).1.toOption.getD [] ++ [created pausing]) :=
    List.mem_append_right _ List.mem_cons_self
  obtain ⟨r', stored, log, -⟩ := session.keeps_history pausing_sound (spares "run") parked_stored
    (.start (created pausing)) (by simp [Call.copy?]) trivial
  exact ⟨pausing_sound, spares "run", _, session, known, parked_stored, r', stored, log⟩

/-- A graph that waits before and after it sends a mail. -/
def mailing : Graph :=
  ⟨[⟨"begin", "", none, .trigger ⟨.manual, []⟩⟩,
    ⟨"delay", "", none, .action ⟨.delay, [("seconds", .int 60)], false, none⟩⟩,
    ⟨"mail", "", none, .action ⟨.sendEmail, [], false, none⟩⟩,
    ⟨"pause", "", none, .action ⟨.delay, [("seconds", .int 60)], false, none⟩⟩,
    ⟨"quit", "", none, .finish⟩],
   [⟨"a", "begin", "delay", none⟩, ⟨"b", "delay", "mail", none⟩, ⟨"c", "mail", "pause", none⟩,
    ⟨"d", "pause", "quit", none⟩], 1⟩

-- A copy that waits at the first delay is resumed twice, and the mail is sent twice.
example :
    let d := (start surroundings bounds (created mailing) (atNine mailing)).2
    let copy := (books.record d.world "run").getD (created mailing)
    let again (d : Desk (World Unit)) := (resume surroundings bounds copy (some (nine.later? 60000000).get!) [] d).2
    (books.calls (again (again d)).world "run").map Sending.nodeId = ["mail", "mail"] := by
  decide +kernel

end Trial

end TriggerFlow.Run
