import TriggerFlow.Proofs.Run.Opening

/-!
# Whole drives

What becomes of a stored record when its run is started, resumed or asked to stop, and when a copy is used
that the stored record has left behind.
-/

namespace TriggerFlow.Run

variable {σ : Type} {s : Surroundings σ} {k : Ledger s} {g : Graph} {h h' : Held σ} {limits : Limits}
  {e : Execution} {d : Desk σ}

/-- A run that is broken off has ended all the same. -/
theorem abort_live (halted : Halted k g h) (ready : Ready k h) (failure : Failure) :
    (abort s failure).Ensures h
      (fun _ h' => h'.record.status = .failed ∧ h.record.log.length < h'.record.log.length ∧
        (k.record h'.desk.world h'.record.id = none ∨ Live k g h'))
      fun _ _ => False := by
  refine ((abort_spec ready.valid halted.lives failure).and (keeps_abort failure h ready)).mono ?_
    fun _ _ none => none.1.elim
  rintro - h' ⟨⟨ended, noted, record, -, stored⟩, p⟩
  refine ⟨by rw [record]; rfl, by rw [record]; simp [abortedAt], ?_⟩
  rcases stored with ⟨lost, same⟩ | ⟨present, becomes⟩
  · exact .inl (by rw [p.run.id, same.record, lost])
  · have live : Live k g h := halted.left.resolve_left present
    refine .inr (live.of_stored p becomes ?_)
    obtain ⟨stage, trail, status, -⟩ := live.course.exists_trail (by
      cases ended : h.record.isTerminal
      · rfl
      · have lives := halted.lives
        rw [Status.canBecome_of_isTerminal ended] at lives
        cases lives)
    rw [record]
    refine .closed trail ?_ rfl (.engine rfl rfl rfl rfl)
    intro completed
    have lives := halted.lives
    rw [status, completed] at lives
    cases lives

/-- What is stored of a run after its record has been driven. -/
structure Ended (k : Ledger s) (g : Graph) (e : Execution) (d : Desk σ) (driven : Driven) (d' : Desk σ) : Prop where
  drove : Drove k e d d'
  left : k.record d'.world e.id = none ∨ k.record d'.world e.id = some driven.copy
  answer : driven.answer = driven.copy
  course : k.record d'.world e.id ≠ none → Course g driven.copy (k.calls d'.world e.id)
  rests : driven.copy.status ≠ .running
  grown : (driven.copy = e ∧ e.status = .waiting) ∨ e.log.length < driven.copy.log.length
  log : e.log <+: driven.copy.log

/-- Something has been done with a copy that the stored record has left behind, and nothing has changed. -/
structure Passed (k : Ledger s) (d d' : Desk σ) : Prop where
  active : d'.active = d.active
  same : k.Same d.world d'.world

theorem drive_live (sound : g.Valid) {expected : Status} {opening : Act (Held σ) Bool}
    (valid : k.valid d.world) (free : e.id ∉ d.active) (stored : k.record d.world e.id = some e)
    (graph : e.graph = g) (course : Course g e (k.calls d.world e.id)) (status : e.status = expected)
    (idle : expected = .pending ∨ expected = .waiting) (keeps : Keeps k opening)
    (begins : Begins k g expected opening) :
    (drive s e (unlessMoved s expected (thenLoop s limits opening))).Ensures
      { d with active := e.id :: d.active } (Ended k g e d) fun _ _ => False := by
  have own : ∀ e', k.record d.world e.id = some e' → SameRun e e' := by
    rintro e' present
    rw [stored] at present
    cases present
    exact .refl e
  have keeps_body : Keeps k (unlessMoved s expected (thenLoop s limits opening)) :=
    keeps_unlessMoved expected (keeps_thenLoop limits keeps)
  have live : Live k g ⟨{ d with active := e.id :: d.active }, e⟩ :=
    ⟨⟨valid, List.mem_cons_self .., own⟩, graph, stored, course⟩
  have drives : (drive s e (unlessMoved s expected (thenLoop s limits opening))).Ensures
      { d with active := e.id :: d.active }
      (fun driven d' => driven.answer = driven.copy ∧ driven.copy.status ≠ .running ∧
        ((driven.copy = e ∧ e.status = .waiting) ∨ e.log.length < driven.copy.log.length) ∧
        (k.record d'.world e.id = none ∨ k.record d'.world e.id = some driven.copy ∧
          Course g driven.copy (k.calls d'.world e.id)))
      fun _ _ => False := by
    refine ensures_drive.mpr (Act.ensures_recover.mpr ?_)
    refine ((unlessMoved_spec limits sound live status idle keeps begins).and (keeps_body _ live.ready)).mono ?_ ?_
    · rintro moved h₁ ⟨⟨rfl, done⟩, p⟩
      refine ⟨rfl, done.rests, done.grown, .inr ⟨?_, ?_⟩⟩
      · exact p.run.id ▸ done.live.stored
      · exact p.run.id ▸ done.live.course
    · rintro failure h₁ ⟨broken, p⟩
      refine Act.ensures_bind.mpr (((abort_live broken.halted p.ready failure).and
        (keeps_abort failure h₁ p.ready)).mono ?_ fun _ _ none => none.1.elim)
      rintro - h₂ ⟨⟨failed, longer, left⟩, p'⟩
      refine ⟨rfl, by simp [failed], .inr (p.log.length_le.trans_lt longer), ?_⟩
      have id : h₂.record.id = e.id := p'.run.id.trans p.run.id
      exact left.imp (fun lost => id ▸ lost) fun live => ⟨id ▸ live.stored, id ▸ live.course⟩
  refine (drives.and (drive_frame keeps_body valid free own)).mono ?_ fun _ _ none => none.1
  rintro driven d' ⟨⟨answer, rests, grown, left⟩, drove, -, log⟩
  refine ⟨drove, left.imp_right And.left, answer, ?_, rests, grown, log⟩
  intro present
  exact (left.resolve_left present).2

theorem start_live (sound : g.Valid) (limits : Limits) (valid : k.valid d.world) (free : e.id ∉ d.active)
    (stored : k.record d.world e.id = some e) (graph : e.graph = g)
    (course : Course g e (k.calls d.world e.id)) (pending : e.status = .pending) :
    (start s limits e).Ensures d (Ended k g e d) fun _ _ => False := by
  refine Act.ensures_bind.mpr (ensures_claim.mpr ?_)
  rw [if_neg (by simpa using free)]
  show (drive s e (unlessMoved s .pending (startBody s limits))).Ensures _ _ _
  rw [startBody_eq]
  exact drive_live sound valid free stored graph course pending (.inl rfl) keeps_begin (begins_begin sound)

theorem resume_live (sound : g.Valid) (limits : Limits) (time : Option Instant) (context : Members)
    (valid : k.valid d.world) (free : e.id ∉ d.active)
    (stored : k.record d.world e.id = some e) (graph : e.graph = g)
    (course : Course g e (k.calls d.world e.id)) (waits : e.status = .waiting) :
    (resume s limits e time context).Ensures d (Ended k g e d) fun _ _ => False := by
  rw [resume, if_neg (by simp [waits])]
  refine Act.ensures_bind.mpr (ensures_claim.mpr ?_)
  rw [if_neg (by simpa using free), resumeBody_now_eq]
  exact drive_live sound valid free stored graph course waits (.inr rfl) (keeps_wakeAt time context)
    (begins_wakeAt sound time context)

/-- A copy whose stored record is in another state than the one expected is not driven. -/
theorem drive_moved {expected : Status} {body : Act (Held σ) Unit} {stored : Execution}
    (valid : k.valid d.world) (free : e.id ∉ d.active) (present : k.record d.world e.id = some stored)
    (moved : stored.status ≠ expected) : (drive s e (unlessMoved s expected body)).Ensures
      { d with active := e.id :: d.active }
      (fun driven d' => driven.answer = stored ∧ driven.copy = e ∧ Passed k d d') fun _ _ => False := by
  refine ensures_drive.mpr (Act.ensures_recover.mpr (Act.ensures_bind.mpr ?_))
  refine (movedOn_spec (k := k) expected (by exact valid)).mono ?_ fun _ _ none => none.elim
  rintro found h₁ ⟨rfl, record, desk, same⟩
  rw [show k.record d.world e.id = _ from present, Option.filter_some, if_pos (by simp [moved])]
  refine ⟨rfl, record, ?_, same⟩
  show without e.id h₁.desk.active = d.active
  rw [desk]
  exact without_claimed free

/-- Starting a run that is stored in another state than pending changes nothing. -/
theorem start_moved {stored : Execution} (limits : Limits) (valid : k.valid d.world)
    (present : k.record d.world e.id = some stored) (moved : stored.status ≠ .pending) :
    (start s limits e).Ensures d (fun driven d' => driven.copy = e ∧ Passed k d d') fun _ d' => d' = d := by
  refine Act.ensures_bind.mpr (ensures_claim.mpr ?_)
  by_cases busy : e.id ∈ d.active
  · rw [if_pos (by simpa using busy)]
    exact rfl
  · rw [if_neg (by simpa using busy)]
    refine (drive_moved valid busy present moved).mono ?_ fun _ _ none => none.elim
    exact fun _ _ passed => passed.2

/-- Resuming a run that is stored in another state than waiting changes nothing. -/
theorem resume_moved {stored : Execution} (limits : Limits) (time : Option Instant) (context : Members)
    (valid : k.valid d.world) (present : k.record d.world e.id = some stored)
    (moved : stored.status ≠ .waiting) : (resume s limits e time context).Ensures d
      (fun driven d' => driven.copy = e ∧ Passed k d d') fun _ _ => False := by
  have unchanged : Passed k d d := ⟨rfl, valid, rfl, rfl, k.drift_refl _⟩
  unfold resume
  split
  · exact ⟨rfl, unchanged⟩
  refine Act.ensures_bind.mpr (ensures_claim.mpr ?_)
  by_cases busy : e.id ∈ d.active
  · rw [if_pos (by simpa using busy)]
    exact ⟨rfl, unchanged⟩
  · rw [if_neg (by simpa using busy)]
    refine (drive_moved valid busy present moved).mono ?_ fun _ _ none => none.elim
    exact fun _ _ passed => passed.2

/-- Resuming a waiting run by a copy whose wait is not over changes nothing, wherever the copy waits: all that is done
is to look at the stored record. -/
theorem resume_early {stored : Execution} {node : Node} {a : Action} (limits : Limits) (time : Option Instant)
    (context : Members) (valid : k.valid d.world) (free : e.id ∉ d.active) (unasked : e.id ∉ d.cancels)
    (present : k.record d.world e.id = some stored) (still : stored.status = .waiting)
    (waits : e.status = .waiting) (found : e.nodeId.bind e.graph.node? = some node)
    (kind : node.task = .action a) (parks : a.kind.parks = true)
    (early : lookAt e (time.getD (s.now (s.load e.id d.world).2)) context = .ok .notDue) :
    (resume s limits e time context).Ensures d
      (fun driven d' => driven = ⟨e, e⟩ ∧ d' = { d with world := (s.load e.id d.world).2 } ∧ Passed k d d')
      fun _ _ => False := by
  rw [resume, if_neg (by simp [waits])]
  refine Act.ensures_bind.mpr (ensures_claim.mpr ?_)
  rw [if_neg (by simpa using free), resumeBody_now_eq]
  refine ensures_drive.mpr (Act.ensures_recover.mpr (Act.ensures_bind.mpr ?_))
  refine ((movedOn_spec (k := k) .waiting (by exact valid)).and (Act.Ensures.run _ _)).mono ?_
    fun _ _ none => none.1.elim
  rintro moved h₁ ⟨⟨rfl, record, desk, same⟩, run⟩
  have world : h₁.desk.world = (s.load e.id d.world).2 :=
    (congrArg (fun p => p.2.desk.world) run).symm.trans (movedOn_world (s := s) .waiting _)
  rw [show k.record d.world e.id = _ from present, Option.filter_some, if_neg (by simp [still])]
  refine Act.ensures_bind.mpr (ensures_consumeCancel.mpr ?_)
  rw [if_neg (by rw [desk, record]; simpa using unasked)]
  refine Act.ensures_bind.mpr (Act.ensures_bind.mpr (Act.ensures_bind.mpr (ensures_now.mpr ?_)))
  refine Act.ensures_bind.mpr (ensures_current.mpr ?_)
  obtain ⟨id, label, position, task⟩ := node
  obtain rfl : task = .action a := kind
  rw [record, found]
  dsimp only
  rw [if_neg (by simp [parks]), world]
  refine Act.ensures_bind.mpr (Act.ensures_lift.mpr ⟨?_, ?_⟩)
  · intro look looked
    cases early.symm.trans looked
    have lives : h₁.record.isTerminal = false := by rw [record]; exact lives_of_status waits rfl
    have left : h₁.desk.released e.id h₁.record.isTerminal = { d with world := (s.load e.id d.world).2 } := by
      rw [lives, Desk.released, desk, world, without_claimed free]
      rfl
    exact ⟨by rw [record]; rfl, left, by rw [left], same⟩
  · intro failure looked
    cases early.symm.trans looked

end TriggerFlow.Run
