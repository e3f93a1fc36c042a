import TriggerFlow.Proofs.Clock
import TriggerFlow.Proofs.Run.Apart
import TriggerFlow.Proofs.Run.Copies
import TriggerFlow.Proofs.Run.Sound
import TriggerFlow.Proofs.Run.Waiting

/-!
# Which runs are resumed

A waiting run that is due does not stay where it is parked when it is resumed, and one that is not due stays there, with
nothing done but a look at its stored record. So to resume all runs that wait is to resume those that are due, as long
as nothing that happens meanwhile gets at other runs.
-/

namespace TriggerFlow.Run

variable {σ : Type} {s : Surroundings σ} {k : Ledger s} {g : Graph} {limits : Limits} {h : Held σ}
  {d d' : Desk σ} {e : Execution} {rank : String → Nat}

section Due

/-- A run that is due does not come to wait where it has been parked. -/
theorem thenLoop_moves (limits : Limits) (sound : g.Valid) (ranking : g.Ranking rank) (live : Live k g h)
    (waits : h.record.status = .waiting) {time : Instant} {context : Members}
    (due : lookAt h.record time context ≠ .ok .notDue) :
    (thenLoop s limits (wakeAt s (some time) context)).Ensures h
      (fun _ h' => h'.record.status ≠ .waiting ∨ h'.record.nodeId ≠ h.record.nodeId) fun _ _ => True := by
  obtain ⟨calm, opens⟩ := begins_wakeAt (s := s) sound (some time) context h live waits
  have settles : (wakeAt s (some time) context).Ensures h _ _ := wake_settles time context waits
  have keeps := keeps_wakeAt (s := s) (some time) context h live.ready
  refine Act.ensures_bind.mpr (((opens.and settles).and keeps).mono ?_ fun _ _ _ => trivial)
  rintro (_ | _) h₁ ⟨⟨opened, settles⟩, p⟩
  · rcases settles with ended | ⟨-, early⟩
    · exact .inl fun waits => by simp [Execution.lives_of_waiting waits] at ended
    · exact absurd early due
  · have running : h₁.record.status = .running := settles
    have keeps := keeps_loop limits limits.steps.toNat h₁ opened.live.ready
    apply ((loop_spec sound limits.steps.toNat opened.live).and keeps).mono _ fun _ _ _ => trivial
    rintro - h₂ ⟨rested, p'⟩
    have longer := p.log.length_le.trans_lt (rested.longer running)
    have past : Past g h₂.record h.record :=
      ⟨p.run.trans p'.run, ⟨_, live.course⟩, p.log.trans p'.log, longer⟩
    by_contra stays
    push Not at stays
    have same := Copy.eq_of_parked ranking (.inr past) rested.live.course waits stays.1 stays.2.symm
    rw [← same] at longer
    exact absurd longer (Nat.lt_irrefl _)

/-- A stored run that is due leaves the place where it waits. -/
theorem resume_leaves (limits : Limits) (sound : g.Valid) (ranking : g.Ranking rank) (live : Live k g (claimed d e))
    (free : e.id ∉ d.active) (waits : e.status = .waiting) {time : Instant} {context : Members}
    (due : lookAt e time context ≠ .ok .notDue) : (resume s limits e (some time) context).Ensures d
      (fun driven _ => driven.copy.status ≠ .waiting ∨ driven.copy.nodeId ≠ e.nodeId) fun _ _ => True := by
  have resumes : (Entry.resume (some time) context).enter s limits e d = _ := Entry.enter_eq limits free waits
  apply (Act.ensures_of_eq resumes).mpr
  have awake (r : Execution) (awake : r.status ≠ .waiting) : r.status ≠ .waiting ∨ r.nodeId ≠ e.nodeId := .inl awake
  apply drive_ends awake live waits
  rintro h live₁ rfl
  exact thenLoop_moves limits sound ranking live₁ waits due

end Due

/-- A waiting run of a graph without defects, with its record as it is stored. Nobody has asked to cancel it. -/
structure Reached (k : Ledger s) (limits : Limits) (d : Desk σ) (e : Execution) : Prop where
  life : ∃ g seen, g.defects = .ok [] ∧ Life k limits g e.id d seen
  stored : k.record d.world e.id = some e
  waits : e.status = .waiting
  unasked : e.id ∉ d.cancels

/-- What it comes to if a waiting run is resumed: it moves if it is due, and otherwise all that is done is to look at
its stored record. -/
structure Resumed (k : Ledger s) (d : Desk σ) (e : Execution) (due : Bool) (driven : Driven) (d' : Desk σ) : Prop where
  answer : driven.answer = driven.copy
  left : k.record d'.world e.id = none ∨ k.record d'.world e.id = some driven.copy
  moves : due = true ↔ driven.copy.status ≠ e.status ∨ driven.copy.nodeId ≠ e.nodeId
  stays : due = false →
    driven = ⟨e, e⟩ ∧ d' = { d with world := (s.load e.id d.world).2 } ∧ k.Same d.world d'.world

namespace Reached

theorem ranked (reached : Reached k limits d e) :
    ∃ g rank seen, g.Valid ∧ g.Ranking rank ∧ Life k limits g e.id d seen := by
  obtain ⟨g, seen, defects, life⟩ := reached.life
  have sound := Graph.valid_of_defects defects
  obtain ⟨rank, ranking⟩ := sound.ranked
  exact ⟨g, rank, seen, sound, ranking, life⟩

theorem valid (reached : Reached k limits d e) : k.valid d.world := by
  obtain ⟨g, rank, seen, sound, ranking, life⟩ := reached.ranked
  exact (life.sane sound ranking).valid

/-- While another run is driven that leaves this one alone, it goes on waiting. -/
theorem aside {other : String} (reached : Reached k limits d e) (ne : e.id ≠ other) (around : Around k other d d')
    (apart : Apart k other d d') : Reached k limits d' e := by
  obtain ⟨g, seen, defects, life⟩ := reached.life
  exact ⟨⟨g, seen, defects, life.aside ne around⟩, (apart.records _ ne).trans reached.stored, reached.waits,
    fun asked => reached.unasked (apart.asked _ ne asked)⟩

/-- A look at what is stored leaves a run waiting. -/
theorem of_same (reached : Reached k limits d e) {w : σ} (same : k.Same d.world w) :
    Reached k limits { d with world := w } e := by
  obtain ⟨other, ne⟩ : ∃ other, e.id ≠ other := by
    by_cases blank : e.id = ""
    · exact ⟨"-", by simp [blank]⟩
    · exact ⟨"", blank⟩
  exact reached.aside ne (.of_same rfl same) (.of_same same fun _ _ asked => asked)

/-- If there is an answer to the question whether a run is due, it tells what it comes to if the run is resumed. -/
theorem resumed (reached : Reached k limits d e) {time : Instant} {context : Members} {due : Bool}
    (asked : isDue e time context = .ok due) :
    (resume s limits e (some time) context).Ensures d (Resumed k d e due) fun _ _ => False := by
  obtain ⟨g, rank, seen, sound, ranking, life⟩ := reached.ranked
  obtain ⟨-, stored, waits, unasked⟩ := reached
  have sane := life.sane sound ranking
  have upright := sane.record e stored
  obtain ⟨wait, here, readable⟩ := life.readable sound ranking e stored waits
  obtain ⟨found, looked, agree⟩ := look_of_isDue waits here readable asked
  have looked : lookAt e time context = .ok found := by
    rw [lookAt, here]
    exact looked
  cases due with
  | true =>
    have ended := resume_live sound limits (some time) context sane.valid sane.free stored upright.graph
      upright.course waits
    have differs : lookAt e time context ≠ .ok .notDue := by
      rw [looked]
      exact fun same => agree.mp rfl (Except.ok.inj same)
    have leaves := resume_leaves limits sound ranking (sane.live stored) sane.free waits differs
    apply (ended.and leaves).mono _ fun _ _ none => none.1
    rintro driven d' ⟨ended, left⟩
    exact ⟨ended.answer, ended.left, ⟨fun _ => waits ▸ left, fun _ => rfl⟩, nofun⟩
  | false =>
    obtain ⟨n, trail, nodeId⟩ := upright.course.waiting waits
    obtain ⟨node, a, present, kind, parks⟩ := trail.parks
    have at_node : e.nodeId.bind e.graph.node? = some node := by
      rw [nodeId, upright.graph]
      exact present
    have early : lookAt e time context = .ok .notDue := by
      rw [looked]
      by_contra differs
      exact absurd (agree.mpr fun same => differs (congrArg Except.ok same)) Bool.false_ne_true
    apply (resume_early limits (some time) context sane.valid sane.free unasked stored waits waits at_node kind parks
      early).mono _ fun _ _ none => none
    rintro driven d' ⟨rfl, left, passed⟩
    exact ⟨rfl, .inr (congrFun passed.same.record _ |>.trans stored), by simp, fun _ => ⟨rfl, left, passed.same⟩⟩

/-- There is an answer if all points in time tell their offsets. -/
theorem answered (reached : Reached k limits d e) (timed : k.Timed) {time : Instant} (aware : time.isAware)
    (context : Members) : ∃ due, isDue e time context = .ok due := by
  obtain ⟨g, rank, seen, sound, ranking, life⟩ := reached.ranked
  obtain ⟨wait, here, readable⟩ := life.readable sound ranking e reached.stored reached.waits
  exact isDue_answers reached.waits here readable timed aware context

end Reached

/-- Runs that are due are the ones that move when all are resumed. -/
theorem resumeEach_due (timed : k.Timed) (unharmed : s.Harmless) {time : Instant} (aware : time.isAware)
    (context : Members) : ∀ (found : List Execution) {d : Desk σ},
      (found.map Execution.id).Nodup → (∀ e ∈ found, Reached k limits d e) →
        (resumeEach s limits (some time) context found).Ensures d
          (fun moved _ => moved.map Execution.id =
            (found.filter fun e => (isDue e time context).toOption = some true).map Execution.id)
          fun _ _ => False
  | [], _, _, _ => rfl
  | e :: rest, d, nodup, reached => by
    obtain ⟨unlike, nodup⟩ := List.nodup_cons.mp nodup
    have first := reached e List.mem_cons_self
    obtain ⟨due, asked⟩ := first.answered timed aware context
    have resumed := first.resumed asked
    have own : ∀ e', k.record d.world e.id = some e' → SameRun e e' := by
      intro e' present
      cases first.stored.symm.trans present
      exact .refl e
    have frame := resume_frame (s := s) limits (some time) context first.valid own
    have apart := resume_apart unharmed limits first.valid e (some time) context
    apply Act.ensures_bind.mpr
    apply ((resumed.and frame).and apart).mono _ fun _ _ none => none.1.1
    rintro driven d₁ ⟨⟨resumed, drove, run, -⟩, apart⟩
    have later : ∀ e' ∈ rest, Reached k limits d₁ e' := by
      intro e' mem
      have ne : e'.id ≠ e.id := fun same => unlike (same ▸ List.mem_map_of_mem mem)
      exact (reached e' (List.mem_cons_of_mem _ mem)).aside ne drove.around apart
    apply Act.ensures_bind.mpr
    apply (resumeEach_due timed unharmed aware context rest nodup later).mono _ fun _ _ none => none
    intro moved d₂ others
    rw [List.filter_cons, asked]
    cases due with
    | true =>
      rw [if_pos (resumed.moves.mp rfl)]
      simp [Except.toOption, run.id, others]
    | false =>
      have stays : ¬ (driven.copy.status ≠ e.status ∨ driven.copy.nodeId ≠ e.nodeId) :=
        fun moves => Bool.false_ne_true (resumed.moves.mpr moves)
      rw [if_neg stays]
      simp [Except.toOption, others]

/-- To ask whether a waiting run of a graph without defects is due is to ask what it comes to if the run is resumed:
whatever the answer, the run moves exactly if it is due, and nothing is done to one that is not due, such as one before
the point in time that it waits for. There is an answer by all clocks that tell their offsets. If by such a clock all
runs that wait are resumed, those that are due are the ones that move, as long as no run is cancelled and no record lost
while an action runs. -/
theorem Ledger.resumes_due (k : Ledger s) (limits : Limits) (time : Instant) (context : Members) :
    (∀ d e, Reached k limits d e →
      (∀ due, isDue e time context = .ok due →
        (resume s limits e (some time) context).Ensures d (Resumed k d e due) fun _ _ => False) ∧
      (k.Timed → time.isAware → ∃ due, isDue e time context = .ok due) ∧
      ∀ wait point, e.wait = some wait → wait.resumeAt = some point → time.order? point = some .lt →
        isDue e time context = .ok false) ∧
    (k.Timed → time.isAware → s.Harmless → ∀ d, k.valid d.world →
      (∀ found, (s.waiting d.world).1 = .ok found → ∀ e ∈ found, Reached k limits d e) →
        (resumeDue s limits (some time) context).Ensures d
          (fun moved _ => ∃ found, (s.waiting d.world).1 = .ok found ∧ moved.map Execution.id =
            (found.filter fun e => (isDue e time context).toOption = some true).map Execution.id)
          fun failure _ => (s.waiting d.world).1 = .error failure) := by
  constructor
  · intro d e reached
    refine ⟨fun due asked => reached.resumed asked, fun timed aware => reached.answered timed aware context, ?_⟩
    exact fun wait point here resumes early => isDue_of_early reached.waits here resumes early context
  · intro timed aware unharmed d valid reached
    apply Act.ensures_bind.mpr
    apply Act.ensures_onPart.mpr
    apply ((k.waiting valid).and (Act.Ensures.run s.waiting d.world)).mono
    · rintro found w ⟨⟨same, nodup, -⟩, run⟩
      have listed : (s.waiting d.world).1 = .ok found := congrArg Prod.fst run
      have looked : ∀ e ∈ found, Reached k limits { d with world := w } e :=
        fun e mem => (reached found listed e mem).of_same same
      apply (resumeEach_due timed unharmed aware context found nodup looked).mono _ fun _ _ none => none.elim
      exact fun moved _ moves => ⟨found, listed, moves⟩
    · exact fun failure w ⟨_, run⟩ => congrArg Prod.fst run

namespace Pause

open TriggerFlow.Graph (pausing pausing_sound)
open TriggerFlow.Trial

/-- The books of the small world, whose clock tells its offset. -/
abbrev timedBooks : Ledger surroundings := World.timedLedger (Action.reporter Unit) none

/-- All that happens while a report is made is that an identifier is drawn. -/
theorem unharmed : surroundings.Harmless := by
  rintro effect ⟨sending, w, mem⟩
  obtain rfl : effect = .draw := by simpa [World.surroundings, Action.reporter] using mem
  rfl

/-- The run that waits a minute, after its start. -/
theorem parked_reached : Reached timedBooks bounds afterStart parked := by
  have id : parked.id = "run" := by decide +kernel
  have aware : (atNine pausing).world.store.now.isAware = true := by decide +kernel
  have life : Life timedBooks bounds pausing "run" (atNine pausing) [] :=
    .created ⟨atNine_valid pausing, aware⟩ (by decide +kernel) (created_stored pausing) rfl rfl ⟨rfl, rfl⟩
      (by decide +kernel)
  have started : ∃ seen, Life timedBooks bounds pausing "run" afterStart seen :=
    ⟨_, afterStart_eq ▸ life.started (created_stored pausing)⟩
  obtain ⟨seen, started⟩ := started
  refine ⟨⟨pausing, seen, pausing_sound, id ▸ started⟩, ?_, parked_waits.1, by decide +kernel⟩
  rw [id]
  exact parked_stored

/-- At ten o'clock that run is resumed, and it is the only one. -/
theorem parked_resumed_at_ten : timedBooks.Timed ∧ ten.isAware ∧ Reached timedBooks bounds afterStart parked ∧
    isDue parked ten [] = .ok true ∧ surroundings.Harmless ∧ timedBooks.valid afterStart.world ∧
    (∀ found, (surroundings.waiting afterStart.world).1 = .ok found →
      ∀ e ∈ found, Reached timedBooks bounds afterStart e) ∧
    (resume surroundings bounds parked (some ten) []).Ensures afterStart (Resumed timedBooks afterStart parked true)
      (fun _ _ => False) ∧
    (resumeDue surroundings bounds (some ten) []).Ensures afterStart
      (fun moved _ => ∃ found, (surroundings.waiting afterStart.world).1 = .ok found ∧ moved.map Execution.id =
        (found.filter fun e => (isDue e ten []).toOption = some true).map Execution.id)
      fun failure _ => (surroundings.waiting afterStart.world).1 = .error failure := by
  have timed : timedBooks.Timed := fun _ valid => valid.2
  have listed : (surroundings.waiting afterStart.world).1.toOption = some [parked] := by decide +kernel
  have reached : ∀ found, (surroundings.waiting afterStart.world).1 = .ok found →
      ∀ e ∈ found, Reached timedBooks bounds afterStart e := by
    intro found ok e mem
    rw [ok] at listed
    cases Option.some.inj listed
    cases List.mem_singleton.mp mem
    exact parked_reached
  obtain ⟨one, all⟩ := timedBooks.resumes_due bounds ten []
  obtain ⟨resumes, answers, -⟩ := one afterStart parked parked_reached
  have due : isDue parked ten [] = .ok true := by
    obtain ⟨due, asked⟩ := answers timed rfl
    have truly : (isDue parked ten []).toOption = some true := by decide +kernel
    rw [asked] at truly ⊢
    rw [Option.some.inj truly]
  exact ⟨timed, rfl, parked_reached, due, unharmed, parked_reached.valid, reached, resumes true due,
    all timed rfl unharmed afterStart parked_reached.valid reached⟩

-- A minute has to pass before that run is due.
example : ((resumeDue surroundings bounds (some nine) [] afterStart).1.toOption.map fun moved =>
    moved.map Execution.id) = some [] := by
  decide +kernel

end Pause

end TriggerFlow.Run
