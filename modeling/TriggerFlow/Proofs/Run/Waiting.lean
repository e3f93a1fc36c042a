import TriggerFlow.Proofs.Run.Entry
import TriggerFlow.Proofs.Run.Settling

/-!
# Runs that wait

Whatever a run is parked with can be read, with its points in time if the clock tells its offset. Nothing else makes a
run wait: a visit that does not park leads on, ends the run or fails, and so do the openings and the endings of a drive.
So over its whole life, a stored run that waits has a wait that can be read.
-/

namespace TriggerFlow.Run

variable {σ : Type} {s : Surroundings σ} {k : Ledger s} {g : Graph} {limits : Limits} {h : Held σ} {id : String}
  {d : Desk σ} {seen : List (Held σ)} {e r : Execution} {node : Node} {a : Action} {timed : Prop}

section Acts

/-- The work at a node that does not park leaves no run waiting. -/
theorem Turned.awake {next : Option String} (turned : Turned node e next r) (running : e.status = .running)
    (quiet : ∀ a, node.task = .action a → a.kind.parks = false) : r.status ≠ .waiting := by
  cases turned with
  | leads next on => simp [on.status, running]
  | fails => simp
  | @parks e' on a kind wait suits =>
    have parks := quiet a kind
    generalize a.kind = kind at suits parks
    cases suits <;> cases parks

/-- A failure leads on, or ends the run. -/
theorem actionFailed_awake (message : String) (running : h.record.status = .running) :
    (actionFailed s node a message).Ensures h (fun _ h' => h'.record.status ≠ .waiting) fun _ _ => True := by
  apply ((actionFailed_turned node a message running).and (actionFailed_ends node a message)).mono
  · rintro (_ | next) h' ⟨turned, ends⟩
    · simp [ends rfl]
    · cases turned with
      | leads next on => simp [on.status, running]
  · exact fun _ _ _ => trivial

/-- What a run is parked with can be read. -/
theorem park_readable (parks : a.kind.parks) (running : h.record.status = .running)
    (clock : timed → (s.now h.desk.world).isAware) :
    (park s node a).Ensures h (fun _ h' => h'.record.Readable timed) fun _ _ => True := by
  refine Act.ensures_bind.mpr (ensures_now.mpr (Act.ensures_bind.mpr ?_))
  refine ensures_rendered (fun config => ?_) fun _ => trivial
  refine Act.ensures_bind.mpr (Act.ensures_attempt.mpr ((parking_onward node a _ config parks).mono ?_ ?_))
  · rintro (⟨wait, message⟩ | next) h₁ ⟨on, waits⟩
    · have readable : wait.Readable timed := (waits wait message rfl).2.mono clock
      refine Act.ensures_bind.mpr ((log_record _ _ _ _ _).mono ?_ fun _ _ _ => trivial)
      intro _ h₂ _
      refine Act.ensures_bind.mpr (ensures_change.mpr ?_)
      refine Act.ensures_bind.mpr (ensures_become.mpr ⟨?_, fun _ => trivial⟩)
      intro e moved waits
      refine ⟨wait, ?_, readable⟩
      rw [Execution.become?] at moved
      split at moved
      · cases moved
        rfl
      · cases moved
    · exact .of_awake (by simp [on.status, running])
  · intro failure h₁ on
    show Act.Ensures (if failure.blamesValue then actionFailed s node a failure.message else Act.fail failure) h₁ _ _
    split
    · exact (actionFailed_awake _ (on.status.trans running)).mono (fun _ _ => .of_awake) fun _ _ _ => trivial
    · trivial

theorem persist_readable (readable : h.record.Readable timed) :
    (persist s).Ensures h (fun _ h' => h'.record.Readable timed) fun _ _ => True :=
  persist_record.mono (fun _ _ same => same ▸ readable) fun _ _ _ => trivial

theorem goOn_readable (next : Option String) (readable : h.record.Readable timed) :
    (goOn s next).Ensures h (fun _ h' => h'.record.Readable timed) fun _ _ => True := by
  apply (goOn_record next).mono _ fun _ _ _ => trivial
  intro _ h' record
  simpa [record, Execution.Readable] using readable

theorem finish_readable (node : Node) :
    (finish s node).Ensures h (fun _ h' => h'.record.Readable timed) fun _ _ => True := by
  refine Act.ensures_bind.mpr ((log_record _ _ _ _ _).mono ?_ fun _ _ _ => trivial)
  intro _ h₁ _
  refine Act.ensures_bind.mpr (ensures_become.mpr ⟨?_, fun _ => trivial⟩)
  intro e moved
  exact persist_readable (.of_awake (by simp [status_of_become? moved]))

/-- Whatever a visit leaves waiting can be read. -/
theorem visit_readable (limits : Limits) (running : h.record.status = .running)
    (clock : timed → (s.now h.desk.world).isAware) :
    (visit s limits).Ensures h (fun _ h' => h'.record.Readable timed) fun _ _ => True := by
  cases found : h.record.nodeId.bind h.record.graph.node? with
  | none =>
    refine Act.ensures_bind.mpr (Act.ensures_bind.mpr (ensures_current.mpr ?_))
    rw [found]
    trivial
  | some node =>
    have goesOn {x : Act (Held σ) (Option String)}
        (readable : x.Ensures h (fun _ h' => h'.record.Readable timed) fun _ _ => True) :
        (x >>= goOn s).Ensures h (fun _ h' => h'.record.Readable timed) fun _ _ => True :=
      Act.ensures_bind.mpr (readable.mono (fun next _ => goOn_readable next) fun _ _ _ => trivial)
    have awake {x : Act (Held σ) (Option String)} (quiet : ∀ a, node.task = .action a → a.kind.parks = false)
        (turned : x.Ensures h (fun next h' => Turned node h.record next h'.record)
          fun _ h' => Onward h.record h'.record) : x.Ensures h (fun _ h' => h'.record.Readable timed) fun _ _ => True :=
      turned.mono (fun _ _ turned => .of_awake (turned.awake running quiet)) fun _ _ _ => trivial
    unfold visit
    rw [Act.ensures_bind_of_ok (currentNode_at found)]
    split
    · rename_i a task
      cases parks : a.kind.parks with
      | true => exact goesOn (park_readable parks running clock)
      | false =>
        refine goesOn (awake ?_ (perform_turned limits node a running))
        intro other own
        cases task.symm.trans own
        exact parks
    · rename_i expression task
      refine goesOn (awake ?_ (decide_turned node expression running))
      intro other own
      cases task.symm.trans own
    · exact finish_readable node
    · trivial

end Acts

section Drive

/-- What holds of all runs that do not wait holds of a copy that has been driven, if the drive itself sees to it: being
asked to stop and being broken off leave no run waiting. -/
theorem drive_ends {good : Execution → Prop} (awake : ∀ r, r.status ≠ .waiting → good r) {expected : Status}
    {body : Act (Held σ) Unit} (live : Live k g (claimed d e)) (status : e.status = expected)
    (drives : ∀ h, Live k g h → h.record = e → body.Ensures h (fun _ h' => good h'.record) fun _ _ => True) :
    (drive s e (unlessMoved s expected body)).Ensures { d with active := e.id :: d.active }
      (fun driven _ => good driven.copy) fun _ _ => True := by
  have aborts {h : Held σ} (failure : Failure) : (do
      abort s failure
      pure none : Act (Held σ) (Option Execution)).Ensures h (fun _ h' => good h'.record) fun _ _ => True :=
    Act.ensures_bind.mpr ((abort_settles failure).mono
      (fun _ _ ended => awake _ fun waits => by simp [Execution.lives_of_waiting waits] at ended)
      fun _ _ none => none.elim)
  refine ensures_drive.mpr (Act.ensures_recover.mpr (Act.ensures_bind.mpr ?_))
  refine ((movedOn_spec (k := k) expected live.ready.valid).and (keeps_movedOn expected _ live.ready)).mono ?_
    fun _ _ none => none.1.elim
  rintro moved h₁ ⟨⟨rfl, record, -, same⟩, p⟩
  have live₁ := live.of_same p record same
  rw [live.stored, Option.filter_some, if_neg (by simp [claimed, status])]
  refine Act.ensures_bind.mpr (ensures_consumeCancel.mpr ?_)
  split
  · refine Act.ensures_bind.mpr (cancel_ends.mono ?_ fun failure _ _ => aborts failure)
    exact fun _ _ cancelled => awake _ (by simp [cancelled])
  · refine Act.ensures_bind.mpr ((drives h₁ live₁ record).mono ?_ fun failure _ _ => aborts failure)
    exact fun _ _ ended => ended

/-- The clock tells its offset. -/
def Ledger.Timed (k : Ledger s) : Prop := ∀ w, k.valid w → (s.now w).isAware

variable (sound : g.Valid)
include sound

theorem loop_readable (limits : Limits) : ∀ (budget : Nat) {h : Held σ}, Live k g h → h.record.Readable k.Timed →
    (loop s limits budget).Ensures h (fun _ h' => h'.record.Readable k.Timed) fun _ _ => True
  | budget, h, live, readable => by
    have left {h' : Held σ} (left : Left k g h h') : h'.record.Readable k.Timed := by
      rcases left.as_was with ⟨same, -⟩ | ⟨cancelled, -⟩
      · exact same ▸ readable
      · exact .of_awake (by simp [cancelled])
    cases budget with
    | zero =>
      refine Act.ensures_bind.mpr ((mayVisit_spec live).mono ?_ fun _ _ _ => trivial)
      rintro (_ | _) h₁ spec
      · exact left spec
      · trivial
    | succ budget =>
      refine Act.ensures_bind.mpr ((mayVisit_spec live).mono ?_ fun _ _ _ => trivial)
      rintro (_ | _) h₁ spec
      · exact left spec
      obtain ⟨running, rfl⟩ := spec
      have visited := (visit_spec limits sound live running).and
        (visit_readable limits running fun timed : k.Timed => timed _ live.ready.valid)
      refine Act.ensures_bind.mpr (visited.mono ?_ fun _ _ _ => trivial)
      rintro - h₂ ⟨⟨node, entry, stage, -, -, visited⟩, readable⟩
      exact loop_readable limits budget visited.live readable

/-- What an opening leads to, and then the visits, can be read. -/
theorem thenLoop_readable (limits : Limits) {opening : Act (Held σ) Bool} {calm : Prop}
    (readable : h.record.Readable k.Timed) (opens : opening.Ensures h (Opened k g calm h) (Refused calm h)) :
    (thenLoop s limits opening).Ensures h (fun _ h' => h'.record.Readable k.Timed) fun _ _ => True := by
  refine Act.ensures_bind.mpr (opens.mono ?_ fun _ _ _ => trivial)
  rintro (_ | _) h₁ opened
  · obtain ⟨-, rfl | ⟨failed, -⟩⟩ := opened.staying rfl
    · exact readable
    · exact .of_awake (by simp [failed])
  · obtain ⟨running, -⟩ := opened.going rfl
    exact loop_readable sound limits _ opened.live (.of_awake (by simp [running]))

/-- However a stored record is taken up, what is stored of it afterwards can be read. -/
theorem Entry.enter_readable (limits : Limits) (entry : Entry) (valid : k.valid d.world) (free : e.id ∉ d.active)
    (stored : k.record d.world e.id = some e) (graph : e.graph = g) (course : Course g e (k.calls d.world e.id))
    (readable : e.Readable k.Timed) :
    ∀ r, k.record (entry.enter s limits e d).2.world e.id = some r → r.Readable k.Timed := by
  by_cases status : e.status = entry.expected
  · have live : Live k g (claimed d e) := claimed_live valid stored graph course
    have awake (r : Execution) (awake : r.status ≠ .waiting) : r.Readable k.Timed := .of_awake awake
    have drives := (Act.ensures_of_eq (entry.enter_eq limits free (entry.admits_of_status status))).mpr
      (drive_ends awake live status fun h live₁ same => by
        obtain ⟨calm, opens⟩ := entry.begins sound h live₁ (same ▸ status)
        exact thenLoop_readable sound limits (same ▸ readable) opens)
    have whole := (entry.ended sound limits valid free stored graph course status).and drives
    refine Act.Ensures.state (P := fun d' : Desk σ => ∀ r, k.record d'.world e.id = some r → r.Readable k.Timed) ?_
    apply whole.mono _ fun _ _ none => none.1.elim
    rintro driven d' ⟨ended, readable⟩ r present
    rcases ended.left with lost | left
    · cases lost.symm.trans present
    · cases left.symm.trans present
      exact readable
  · have passes := (entry.enter_of_moved limits valid stored status).2
    have passed : Passed k d (entry.enter s limits e d).2 := passes.state
    intro r present
    rw [passed.same.record, stored] at present
    exact Option.some.inj present ▸ readable

/-- Over the whole life of a run, a stored record that waits has a wait that can be read. -/
theorem Life.readable {rank : String → Nat} (ranking : g.Ranking rank) (life : Life k limits g id d seen) :
    ∀ e, k.record d.world id = some e → e.Readable k.Timed := by
  have meanwhile {r r' : Option Execution} (meanwhile : Meanwhile r r')
      (readable : ∀ e, r = some e → e.Readable k.Timed) : ∀ e, r' = some e → e.Readable k.Timed := by
    cases meanwhile with
    | same => exact readable
    | cancelled e ended noted waits =>
      intro _ same
      cases same
      exact .of_awake (by simp [cancelledAt])
    | lost =>
      intro _ none
      cases none
  have entered {d : Desk σ} {seen : List (Held σ)} {e : Execution} (entry : Entry) (life : Life k limits g id d seen)
      (stored : k.record d.world id = some e) (readable : e.Readable k.Timed) :
      ∀ r, k.record (entry.enter s limits e d).2.world id = some r → r.Readable k.Timed := by
    have sane := life.sane sound ranking
    obtain rfl := k.id_of_record sane.valid stored
    have upright := sane.record e stored
    exact entry.enter_readable sound limits sane.valid sane.free stored upright.graph upright.course readable
  induction life with
  | @created d e valid free stored graph pending blank unsent =>
    intro e' present
    cases stored.symm.trans present
    exact .of_awake (by simp [pending])
  | aside life ne around ih => exact meanwhile (around.others _ ne) ih
  | @started d seen e life stored ih => exact entered .start life stored (ih e stored)
  | @resumed d seen e life stored time context ih => exact entered (.resume time context) life stored (ih e stored)
  | @asked d seen life ih =>
    have asked := (requestCancel_spec (s := s) (life.sane sound ranking).valid id).state
    exact meanwhile asked.meanwhile ih

end Drive

end TriggerFlow.Run
