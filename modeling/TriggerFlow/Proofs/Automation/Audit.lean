import TriggerFlow.Proofs.Automation.Validated
import TriggerFlow.Proofs.Run.Copies
import TriggerFlow.Proofs.Run.Course

/-!
# The audit trail of a session

As long as the dispatcher loses no records, every run of a session stays on its course, whatever errands come in
for it and whenever they are carried out. So its log always shows the path that it has taken, and nothing is sent
out twice or passed over.
-/

namespace TriggerFlow.Automation

open Run (Meanwhile SameRun Abiding GoesOn Course Body Shows Sending)

variable {δ : Type} {setup : Setup δ} {origin : Origin} {a b : Automation δ} {past : List (Automation δ)}

/-- What has been sent out for a run. -/
def calls (a : Automation δ) (id : String) : List Sending := a.desk.world.sent.filter fun c => c.runId = id

/-- Nothing has been sent out for a run whose identifier has not been drawn. -/
theorem Orderly.calls_of_not_drawn (orderly : Orderly a) {id : String} (new : ¬ a.store.Drawn id) :
    a.calls id = [] := by
  rw [calls, List.filter_eq_nil_iff]
  intro sending mem here
  exact new (of_decide_eq_true here ▸ orderly.sent sending mem)

/-- Every stored run is on its course through a graph without defects, and no errand is for a run that is lost. -/
structure Honest (a : Automation δ) : Prop where
  runs : ∀ id r, a.store.runs.get? id = some r → r.graph.Valid ∧ Course r.graph r (a.calls id)
  attended : ∀ errand ∈ a.queue, a.store.runs.get? errand.runId ≠ none

/-- The copy that an errand is for is the stored record, unless that has been cancelled, and so the errand does no
harm to it. -/
theorem drive_goesOn {errand : Errand} {d : Run.Desk (World δ)} {g : Graph} {r : Execution} (sound : g.Valid)
    (spares : (surroundings setup).Spares errand.runId)
    (abiding : Abiding (ledger setup) g errand.runId [] d r) (meanwhile : Meanwhile (some errand.record) (some r)) :
    GoesOn (ledger setup) g errand.runId [] d r (drive setup errand d).2 := by
  obtain ⟨rank, ranking⟩ := sound.ranked
  generalize known : some errand.record = before at meanwhile
  generalize found : some r = after at meanwhile
  cases meanwhile with
  | same =>
    cases found.trans known.symm
    have handed := abiding.cons (.inl rfl)
    cases errand with
    | start e =>
      refine Act.Ensures.state ((Run.start_goesOn sound ranking setup.limits handed spares
        List.mem_cons_self).mono ?_ ?_)
      · exact fun _ d' goes => goes.mono (List.nil_subset _)
      · exact fun _ d' goes => goes.mono (List.nil_subset _)
    | resume e time context =>
      refine Act.Ensures.state ((Run.resume_goesOn sound ranking setup.limits handed spares
        List.mem_cons_self time context fun _ _ => .inl rfl).mono ?_ ?_)
      · exact fun _ d' goes => goes.mono (List.nil_subset _)
      · exact fun _ d' goes => goes.mono (List.nil_subset _)
  | cancelled e ended noted waits =>
    cases found
    cases errand with
    | start e =>
      refine Act.Ensures.state ((Run.start_moved setup.limits abiding.valid abiding.stored nofun).mono ?_ ?_)
      · exact fun _ d' passed => ⟨_, abiding.of_passed passed.2⟩
      · exact fun _ d' same => same ▸ abiding.refl
    | resume e time context =>
      refine Act.Ensures.state ((Run.resume_moved setup.limits time context abiding.valid abiding.stored
        nofun).mono ?_ fun _ _ none => none.elim)
      exact fun _ d' passed => ⟨_, abiding.of_passed passed.2⟩
  | lost => cases found

namespace Honest

theorem abiding (setup : Setup δ) (honest : Honest a) (orderly : Orderly a) {id : String} {r : Execution}
    (stored : a.store.runs.get? id = some r) : Abiding (ledger setup) r.graph id [] a.desk r where
  valid := orderly.kept
  free := by simp [orderly.idle]
  stored := stored
  graph := rfl
  course := (honest.runs id r stored).2
  copies := by simp

/-- Runs that go on stay on their courses. -/
theorem runs_of_goesOn (setup : Setup δ) (honest : Honest a) {d : Run.Desk (World δ)}
    (old : ∀ id, d.world.store.runs.get? id ≠ none → a.store.runs.get? id ≠ none)
    (goes : ∀ id r, a.store.runs.get? id = some r → GoesOn (ledger setup) r.graph id [] a.desk r d) :
    ∀ id r, d.world.store.runs.get? id = some r →
      r.graph.Valid ∧ Course r.graph r (d.world.sent.filter fun c => c.runId = id) := by
  intro id r stored
  obtain ⟨r₀, before⟩ := Option.ne_none_iff_exists'.mp (old id (by simp [stored]))
  obtain ⟨r', abiding, -⟩ := goes id r₀ before
  cases abiding.stored.symm.trans stored
  rw [abiding.graph]
  exact ⟨(honest.runs id r₀ before).1, abiding.course⟩

end Honest

/-- A run that has been launched is on its course before it begins. -/
theorem Honest.launched (honest : Honest a) (orderly : Orderly a) {s : Store} {e : Execution}
    (sound : e.graph.Valid) (unbegun : e.status = .pending ∧ e.log = [] ∧ e.nodeId = none)
    (reruns : a.store.Reruns (a.store.runs.set a.store.fresh.id e) s) : Honest (a.withStore s) := by
  have unsent := orderly.calls_of_not_drawn a.store.not_drawn_fresh
  constructor
  · intro id r stored
    change s.runs.get? id = some r at stored
    rw [reruns.runs, Ordered.get?_set] at stored
    by_cases fresh : id = a.store.fresh.id
    · rw [fresh, Function.update_self] at stored
      cases stored
      obtain ⟨pending, blank, nowhere⟩ := unbegun
      have trail : Run.Trail e.graph e.log (a.calls id) .unbegun := by
        rw [blank, fresh, unsent]
        exact .unbegun
      exact ⟨sound, .going trail pending nowhere⟩
    · rw [Function.update_of_ne fresh] at stored
      exact honest.runs id r stored
  · intro errand mem
    show s.runs.get? errand.runId ≠ none
    rw [reruns.runs, Ordered.get?_set]
    by_cases fresh : errand.runId = a.store.fresh.id
    · simp [fresh]
    · rw [Function.update_of_ne fresh]
      exact honest.attended errand mem

/-- Runs of graphs without defects, launched by a request from workflows on offer. -/
def sourceOf (a : Automation δ) (request : Request) : Origin :=
  ⟨fun e => e.graph.Valid, fun w kind payload => Offered a.store w ∧ request.Launches w kind payload⟩

theorem Session.sources (session : Session setup past a) (request : Request) :
    Sources (a.sourceOf request) a request where
  same e e' same sound := by
    show e'.graph.Valid
    rw [same.graph]
    exact sound
  admits w kind payload offered launches := by
    refine ⟨⟨offered, launches⟩, fun _ _ => ?_⟩
    exact Graph.valid_of_defects (session.sound a List.mem_cons_self w.id w offered.1 offered.2)
  known e held := by
    obtain ⟨before, mem, w, ⟨present, enabled⟩, -, same⟩ := (session.launched e held).mem
    show e.graph.Valid
    rw [← same]
    exact Graph.valid_of_defects (session.sound before mem w.id w present enabled)

section Moves

variable (spares : ∀ id, (surroundings setup).Spares id) (sound : ∀ e, origin.of e → e.graph.Valid)
include spares sound

/-- Every move keeps the runs on their courses. -/
theorem Move.honest (move : Move setup origin a b) (orderly : Orderly a) (honest : Honest a) : Honest b := by
  have attended : ∀ errand ∈ a.queue, b.store.runs.get? errand.runId ≠ none := fun errand mem =>
    move.kept orderly (spares errand.runId) (honest.attended errand mem)
  cases move with
  | edited edits => exact ⟨fun id r stored => honest.runs id r (edits.runs ▸ stored), attended⟩
  | launched new reruns drawn => exact honest.launched orderly (sound _ new.1) ⟨rfl, rfl, rfl⟩ reruns
  | @queued errand idle known drawn meanwhile kept =>
    refine ⟨honest.runs, ?_⟩
    intro other mem
    rcases List.mem_append.mp mem with mem | mem
    · exact attended other mem
    · exact List.mem_singleton.mp mem ▸ kept (spares _)
  | @carried errand rest queue =>
    obtain ⟨-, meanwhile⟩ := orderly.queue errand (queue ▸ List.mem_cons_self)
    have carried := orderly.drive_first setup queue
    have here := honest.attended errand (queue ▸ List.mem_cons_self)
    refine ⟨honest.runs_of_goesOn setup ?_ ?_, fun other mem => attended other (queue ▸ List.mem_cons_of_mem _ mem)⟩
    · intro id present
      by_cases own : id = errand.runId
      · exact own ▸ here
      · exact (carried.around.others id own).ne_none present
    · intro id r stored
      have abiding := honest.abiding setup orderly stored
      by_cases own : id = errand.runId
      · subst own
        exact drive_goesOn (honest.runs _ r stored).1 (spares _) abiding (stored ▸ meanwhile)
      · obtain ⟨r', abiding', continues, -⟩ := abiding.of_around (spares id) own carried.around
        exact ⟨r', abiding', continues⟩
  | asked id =>
    have asked := (Run.requestCancel_spec (k := ledger setup) orderly.kept id).state
    refine ⟨honest.runs_of_goesOn setup ?_ ?_, attended⟩
    · intro other present
      exact (meanwhile_of_asked asked other).ne_none present
    · intro other r stored
      have abiding := honest.abiding setup orderly stored
      obtain ⟨r', abiding', continues, -⟩ := abiding.of_meanwhile asked.valid asked.active
        (meanwhile_of_asked asked other) (asked.kept (by simp [abiding.stored])) (by simp [Run.Books.calls, asked.sent])
      exact ⟨r', abiding', continues⟩

theorem Moves.honest (moves : Moves setup origin a b) (orderly : Orderly a) (honest : Honest a) : Honest b := by
  induction moves with
  | refl => exact honest
  | tail earlier move ih => exact move.honest spares sound (Moves.orderly earlier orderly) ih

omit sound in
theorem Session.honest (session : Session setup past a) : Honest a := by
  induction session with
  | opened now drawn agent =>
    refine ⟨?_, fun errand mem => absurd mem List.not_mem_nil⟩
    intro id r stored
    cases stored
  | @asked past a session request ih =>
    have reaches := reaches_after session.steady (session.sources request)
    exact Moves.honest spares (fun _ sound => sound) reaches.moves session.steady.orderly ih

end Moves

end TriggerFlow.Automation
