import TriggerFlow.Proofs.Run.Life
import TriggerFlow.Proofs.World

/-!
# Runs of graphs without defects

Over its whole life, a run of a graph without defects never comes upon anything that the checks of the graph
rule out, it enters no node twice, and it is complete only at an end node. If nothing disturbs its drives, each
of them ends with the run parked or at its end.
-/

namespace TriggerFlow.Run

variable {σ : Type} {s : Surroundings σ} {k : Ledger s} {g : Graph} {limits : Limits} {id : String}
  {d : Desk σ} {seen : List (Held σ)} {e : Execution} {rank : String → Nat}

/-- A drive is broken off by no fault of the graph, and by its budget only if that is smaller than the graph. -/
def Unfaulted (limits : Limits) (g : Graph) (run : Act (Held σ) (Option Execution)) (h : Held σ) : Prop :=
  ∀ fault h', run h = (.error (.run fault), h') →
    fault = .budgetExceeded limits.steps ∧ limits.steps < g.nodes.length

/-- Nothing stands in the way of a drive: nobody asks for a stop, nothing goes wrong at any visit, and the
budget lasts. -/
structure Unhindered (s : Surroundings σ) (limits : Limits) (d : Desk σ) (e : Execution)
    (states : List (Held σ)) (run : Act (Held σ) (Option Execution)) : Prop where
  discreet : s.Discreet e.id
  unasked : e.id ∉ d.cancels
  smooth : ∀ v ∈ states, SmoothHere s limits v
  enough : ∀ h', run (claimed d e) ≠ (.error (.run (.budgetExceeded limits.steps)), h')

/-- A drive of the stored record is not broken off by a fault of the graph. -/
theorem Sane.unfaulted {expected : Status} {opening : Act (Held σ) Bool} (limits : Limits) (sound : g.Valid)
    (sane : Sane k g rank id d seen) (stored : k.record d.world id = some e)
    (idle : expected = .pending ∨ expected = .waiting) (keeps : Keeps k opening)
    (begins : Begins k g expected opening) :
    Unfaulted limits g (unlessMoved s expected (thenLoop s limits opening)) (claimed d e) := by
  intro fault h' run
  obtain rfl := k.id_of_record sane.valid stored
  by_cases status : e.status = expected
  · obtain ⟨cause, small⟩ :=
      ((unlessMoved_spec limits sound (sane.live stored) status idle keeps begins).of_error run).cause fault rfl
    exact ⟨cause, by omega⟩
  · have moved : (unlessMoved s expected (thenLoop s limits opening)).Ensures (claimed d e)
        (fun _ _ => True) fun _ _ => False := by
      refine Act.ensures_bind.mpr ((movedOn_spec (k := k) expected sane.valid).mono ?_ fun _ _ none => none)
      rintro found h₁ ⟨rfl, -⟩
      rw [show k.record (claimed d e).desk.world (claimed d e).record.id = some e from stored,
        Option.filter_some, if_pos (by simpa using status)]
      trivial
    exact (moved.of_error run).elim

/-- Whether the stored record has moved on is found out without a change to the run in hand. -/
theorem movedOn_live (expected : Status) {h : Held σ} (live : Live k g h) :
    Live k g (movedOn s expected h).2 ∧ (movedOn s expected h).2.record = h.record := by
  have found := (movedOn_spec (s := s) expected live.ready.valid).and (keeps_movedOn expected h live.ready)
  refine Act.Ensures.state (P := fun h' => Live k g h' ∧ h'.record = h.record)
    (found.mono ?_ fun _ _ none => none.1.elim)
  rintro _ h' ⟨⟨-, record, -, same⟩, p⟩
  exact ⟨live.of_same p record same, record⟩

/-- A start of the stored record that nothing disturbs leaves the run parked or at its end. -/
theorem Sane.start_rests (sound : g.Valid) (sane : Sane k g rank id d seen)
    (stored : k.record d.world id = some e) (pending : e.status = .pending)
    (free : Unhindered s limits d e (startVisits s limits d e) (startRun s limits)) :
    (start s limits e).Ensures d
      (fun driven d' => k.record d'.world id = some driven.answer ∧ Rests driven.answer)
      fun _ _ => False := by
  obtain rfl := k.id_of_record sane.valid stored
  have live := sane.live stored
  have smooth := free.smooth
  have enough := free.enough
  rw [startVisits, if_neg (by simpa using sane.free)] at smooth
  rw [startRun, startBody_eq] at enough
  refine Act.ensures_bind.mpr (ensures_claim.mpr ?_)
  rw [if_neg (by simpa using sane.free), startBody_eq]
  refine drive_calm (keeps_unlessMoved _ (keeps_thenLoop limits keeps_begin)) live ?_ enough
  obtain ⟨live', record⟩ := movedOn_live (s := s) .pending live
  have opens := begin_spec (s := s) sound live' (by rw [record]; exact pending)
  exact unlessMoved_calm limits sound live pending free.discreet (by simpa [claimed] using free.unasked) keeps_begin
    (opens.mono (fun _ _ opened => opened.2) fun _ _ none => none.elim) trivial smooth

/-- A patient resumption of the stored record that nothing disturbs leaves the run parked or at its end. -/
theorem Sane.resume_rests (sound : g.Valid) (sane : Sane k g rank id d seen)
    (stored : k.record d.world id = some e) (waits : e.status = .waiting) {time : Option Instant}
    {context : Members} (patient : Patient e (time.getD (s.now (s.load id d.world).2)) context)
    (free : Unhindered s limits d e (resumeVisits s limits time context d e)
      (resumeRun s limits time context)) :
    (resume s limits e time context).Ensures d
      (fun driven d' => k.record d'.world id = some driven.answer ∧ Rests driven.answer)
      fun _ _ => False := by
  obtain rfl := k.id_of_record sane.valid stored
  have live := sane.live stored
  have smooth := free.smooth
  have enough := free.enough
  rw [resumeVisits, if_neg (by simp [waits, sane.free])] at smooth
  rw [resumeRun, resumeBody_now_eq] at enough
  rw [resume, if_neg (by simp [waits])]
  refine Act.ensures_bind.mpr (ensures_claim.mpr ?_)
  rw [if_neg (by simpa using sane.free), resumeBody_now_eq]
  refine drive_calm (keeps_unlessMoved _ (keeps_thenLoop limits (keeps_wakeAt time context))) live ?_ enough
  obtain ⟨live', record⟩ := movedOn_live (s := s) .waiting live
  have opens := wake_spec (s := s) sound live' (by rw [record]; exact waits)
    (time.getD (s.now (movedOn s .waiting (claimed d e)).2.desk.world)) context
  refine unlessMoved_calm limits sound live waits free.discreet (by simpa [claimed] using free.unasked)
    (keeps_wakeAt time context) opens ?_ smooth
  rw [record, movedOn_world]
  exact ⟨patient.undisturbed, free.discreet⟩

/-- Every node that a run enters in its life is entered once. -/
theorem Sane.entered_nodup (sane : Sane k g rank id d seen) : (entered seen).Nodup :=
  sane.down.imp fun lower same => absurd (congrArg rank same) lower.ne'

/-- The life of a run of a graph without defects: no fault of the graph, no node entered twice, budgets that
last if they are as large as the graph, completion at end nodes only, and rest after every drive that nothing
disturbs. -/
theorem Life.runs_soundly (defects : g.defects = .ok []) (life : Life k limits g id d seen) :
    (entered seen).Nodup ∧ ∀ e, k.record d.world id = some e →
      (e.status = .completed → ∃ node, e.nodeId = some node.id ∧ g.node? node.id = some node ∧
        node.task = .finish) ∧
      Unfaulted limits g (startRun s limits) (claimed d e) ∧
      (∀ time context, Unfaulted limits g (resumeRun s limits time context) (claimed d e)) ∧
      (e.status = .pending → Unhindered s limits d e (startVisits s limits d e) (startRun s limits) →
        (start s limits e).Ensures d
          (fun driven d' => k.record d'.world id = some driven.answer ∧ Rests driven.answer)
          fun _ _ => False) ∧
      ∀ time context, e.status = .waiting →
        Patient e (time.getD (s.now (s.load id d.world).2)) context →
        Unhindered s limits d e (resumeVisits s limits time context d e) (resumeRun s limits time context) →
          (resume s limits e time context).Ensures d
            (fun driven d' => k.record d'.world id = some driven.answer ∧ Rests driven.answer)
            fun _ _ => False := by
  have sound := Graph.valid_of_defects defects
  obtain ⟨rank, ranking⟩ := sound.ranked
  have sane := life.sane sound ranking
  refine ⟨sane.entered_nodup, fun e stored => ⟨?_, ?_, ?_, ?_, ?_⟩⟩
  · exact (sane.record e stored).course.completed
  · rw [startRun, startBody_eq]
    exact sane.unfaulted limits sound stored (.inl rfl) keeps_begin (begins_begin sound)
  · intro time context
    rw [resumeRun, resumeBody_now_eq]
    exact sane.unfaulted limits sound stored (.inr rfl) (keeps_wakeAt time context)
      (begins_wakeAt sound time context)
  · exact fun pending free => sane.start_rests sound stored pending free
  · exact fun time context waits patient free => sane.resume_rests sound stored waits patient free

namespace Pause

open TriggerFlow.Graph (pausing pausing_sound)
open TriggerFlow.Trial

/-- An hour later, and an hour later by a clock of unknown offset. -/
def ten : Instant := .ofParts ⟨2025, 3, 3⟩ 10 0 0 0 (some 0)
def aboutTen : Instant := .ofParts ⟨2025, 3, 3⟩ 10 0 0 0 none

theorem life : Life books bounds pausing "run" (atNine pausing) [] :=
  .created (atNine_valid pausing) (by decide +kernel) (created_stored pausing) rfl rfl ⟨rfl, rfl⟩ (by decide +kernel)

theorem life_afterStart : Life books bounds pausing "run" afterStart
    (startVisits surroundings bounds (atNine pausing) (created pausing)) :=
  afterStart_eq ▸ life.started (created_stored pausing)

/-- A minute from nine o'clock fits the calendar. -/
theorem minute_useful :
    Useful ⟨.delay, [("seconds", .int 60)], false, none⟩ [("seconds", .int 60)] [] nine := by
  have fits : (match Action.delaySeconds [("seconds", .int 60)] with
      | .ok seconds => (after nine seconds).isOk
      | .error _ => false) = true := by decide +kernel
  split at fits
  · rename_i seconds found
    cases later : after nine seconds with
    | ok time => exact ⟨seconds, time, found, later⟩
    | error => cases later ▸ fits
  · cases fits

theorem start_unhindered : Unhindered surroundings bounds (atNine pausing) (created pausing)
    (startVisits surroundings bounds (atNine pausing) (created pausing)) (startRun surroundings bounds) where
  discreet := World.discreet _ _
  unasked := by decide +kernel
  smooth v mem node found := by
    have all : (startVisits surroundings bounds (atNine pausing) (created pausing)).all (fun v =>
        v.record.vars = [] && v.record.nodeId = some "delay" && v.record.graph = pausing &&
          v.desk.world.store.now = nine) = true := by
      decide +kernel
    have here := List.all_eq_true.mp all v mem
    simp only [Bool.and_eq_true, decide_eq_true_eq] at here
    obtain ⟨⟨⟨vars, nodeId⟩, graph⟩, now⟩ := here
    rw [nodeId, graph] at found
    cases Option.some.inj found
    refine ⟨[("seconds", .int 60)], ?_, ?_⟩
    · rw [vars]
      decide +kernel
    · rw [if_pos (show ActionKind.delay.parks = true from rfl), vars]
      show Useful _ _ _ v.desk.world.store.now
      exact now ▸ minute_useful
  enough h' run := by
    have fine : (startRun surroundings bounds (claimed (atNine pausing) (created pausing))).1.isOk = true := by
      decide +kernel
    rw [run] at fine
    cases fine

theorem resume_unhindered (time : Instant)
    (quiet : (resumeVisits surroundings bounds (some time) [] afterStart parked).all (fun v =>
      v.record.nodeId = some "end" && v.record.graph = pausing) = true ∧
      (resumeRun surroundings bounds (some time) [] (claimed afterStart parked)).1 ≠
        .error (.run (.budgetExceeded bounds.steps))) :
    Unhindered surroundings bounds afterStart parked
      (resumeVisits surroundings bounds (some time) [] afterStart parked)
      (resumeRun surroundings bounds (some time) []) where
  discreet := World.discreet _ _
  unasked := by decide +kernel
  smooth v mem node found := by
    have here := List.all_eq_true.mp quiet.1 v mem
    simp only [Bool.and_eq_true, decide_eq_true_eq] at here
    rw [here.1, here.2] at found
    cases Option.some.inj found
    trivial
  enough h' run := quiet.2 (congrArg Prod.fst run)

theorem patient_at_ten (now : Instant) : Patient parked ((some ten).getD now) [] where
  comparable wait point waits due := by
    cases parked_waits.2.symm.trans waits
    rcases due with same | none
    · cases same
      rfl
    · cases none
  evaluates wait expression waits condition := by
    cases parked_waits.2.symm.trans waits
    cases condition
  inTime wait expression point waits condition := by
    cases parked_waits.2.symm.trans waits
    cases condition

/-- The run rests after its start and after a resumption at ten o'clock. -/
theorem rests_twice : pausing.defects = .ok [] ∧ Life books bounds pausing "run" (atNine pausing) [] ∧
    (start surroundings bounds (created pausing)).Ensures (atNine pausing)
      (fun driven d' => books.record d'.world "run" = some driven.answer ∧ Rests driven.answer)
      (fun _ _ => False) ∧
    (resume surroundings bounds parked (some ten) []).Ensures afterStart
      (fun driven d' => books.record d'.world "run" = some driven.answer ∧ Rests driven.answer)
      fun _ _ => False := by
  obtain ⟨-, -, -, starts, -⟩ := (life.runs_soundly pausing_sound).2 (created pausing) (created_stored pausing)
  obtain ⟨-, -, -, -, resumes⟩ := (life_afterStart.runs_soundly pausing_sound).2 parked parked_stored
  have patient := patient_at_ten (surroundings.now (surroundings.load "run" afterStart.world).2)
  have free := resume_unhindered ten (by decide +kernel)
  exact ⟨pausing_sound, life, starts rfl start_unhindered, resumes (some ten) [] parked_waits.1 patient free⟩

/-- By a clock of unknown offset nobody can tell whether the wait is over, and the run fails. -/
theorem fails_about_ten : pausing.defects = .ok [] ∧
    Unhindered surroundings bounds (atNine pausing) (created pausing)
      (startVisits surroundings bounds (atNine pausing) (created pausing)) (startRun surroundings bounds) ∧
    Life books bounds pausing "run" afterStart (startVisits surroundings bounds (atNine pausing) (created pausing)) ∧
    books.record afterStart.world "run" = some parked ∧ parked.status = .waiting ∧
    parked.wait.bind Wait.expression = none ∧
    Unhindered surroundings bounds afterStart parked
      (resumeVisits surroundings bounds (some aboutTen) [] afterStart parked)
      (resumeRun surroundings bounds (some aboutTen) []) ∧
    ¬ (resume surroundings bounds parked (some aboutTen) []).Ensures afterStart
      (fun driven _ => Rests driven.answer) (fun _ _ => False) := by
  refine ⟨pausing_sound, start_unhindered, life_afterStart, parked_stored, parked_waits.1, by rw [parked_waits.2]; rfl,
    resume_unhindered aboutTen (by decide +kernel), ?_⟩
  intro rests
  have failed : ((resume surroundings bounds parked (some aboutTen) [] afterStart).1.toOption.map
      fun driven => driven.answer.status) = some .failed := by decide +kernel
  unfold Act.Ensures at rests
  rcases run : resume surroundings bounds parked (some aboutTen) [] afterStart with ⟨_ | driven, d'⟩ <;>
    rw [run] at failed rests
  · exact rests
  · have failed : driven.answer.status = .failed := Option.some.inj failed
    rcases rests with waits | completed
    · cases waits.symm.trans failed
    · cases completed.symm.trans failed

end Pause

end TriggerFlow.Run
