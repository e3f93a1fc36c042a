import TriggerFlow.Proofs.Automation.Passage
import TriggerFlow.Proofs.Automation.Version

/-!
# What is counted of the runs of a workflow

The counts beside a definition are kept by small edits of their own: one when a run is launched, and one when a drive
answers that its run has failed. As long as no record is lost and no identifier is given twice, they are what the stored
runs say: how many there are, how many of them have failed, and when the latest was launched.
-/

namespace TriggerFlow

open Run (Meanwhile SameRun)

namespace Store

variable {s s' : Store} {id run own : String}

/-- What a record tells of its launch: the workflow and the time. -/
def launchOf (r : Option Execution) : Option (String × Instant) := r.map fun e => (e.workflowId, e.startedAt)

/-- The workflow of a record, if the run has failed. -/
def failureOf (r : Option Execution) : Option String :=
  r.bind fun e => if e.status = .failed then some e.workflowId else none

/-- The launches that are on record. -/
def launches (s : Store) (run : String) : Option (String × Instant) := launchOf (s.runs.get? run)

/-- The failures that are on record. -/
def failures (s : Store) (run : String) : Option String := failureOf (s.runs.get? run)

/-- The time of the latest launch of a workflow. A run that is launched later has an identifier that is drawn later. -/
def Latest (launches : String → Option (String × Instant)) (id : String) : Option Instant → Prop
  | none => ∀ run time, launches run ≠ some (id, time)
  | some time => ∃ n, launches (idOfCount n) = some (id, time) ∧
      ∀ m time', launches (idOfCount m) = some (id, time') → m ≤ n

/-- Counts are what is on record of the runs of a workflow. -/
structure Counts (s : Store) (id : String) (counts : Int × Int × Option Instant) : Prop where
  launched : counts.1 = {run | ∃ launch, s.launches run = some launch ∧ launch.1 = id}.ncard
  failed : counts.2.1 = {run | ∃ workflow, s.failures run = some workflow ∧ workflow = id}.ncard
  latest : Latest s.launches id counts.2.2

/-- The counts of all definitions are what is on record. -/
def Counted (s : Store) : Prop := ∀ id w, s.definitions.get? id = some w → s.Counts id w.counts

theorem finite_launches (s : Store) (P : String × Instant → Prop) :
    {run | ∃ launch, s.launches run = some launch ∧ P launch}.Finite := by
  refine (Ordered.finite_keys s.runs fun e => P (e.workflowId, e.startedAt)).subset ?_
  rintro run ⟨launch, launched, holds⟩
  obtain ⟨e, stored, rfl⟩ := Option.map_eq_some_iff.mp launched
  exact ⟨e, stored, holds⟩

theorem finite_failures (s : Store) (P : String → Prop) :
    {run | ∃ workflow, s.failures run = some workflow ∧ P workflow}.Finite := by
  refine (Ordered.finite_keys s.runs fun _ => True).subset ?_
  rintro run ⟨workflow, failed, -⟩
  obtain ⟨e, stored, -⟩ := Option.bind_eq_some_iff.mp failed
  exact ⟨e, stored, trivial⟩

/-- What is new on record is counted if it is of the kind that is counted. -/
theorem ncard_update {β : Type} {f : String → Option β} {P : β → Prop} [DecidablePred P]
    (finite : {x | ∃ b, f x = some b ∧ P b}.Finite) (new : f run = none) (b : β) :
    {x | ∃ c, Function.update f run (some b) x = some c ∧ P c}.ncard =
      {x | ∃ c, f x = some c ∧ P c}.ncard + if P b then 1 else 0 := by
  have fresh : run ∉ {x | ∃ c, f x = some c ∧ P c} := by simp [new]
  split
  · rename_i counted
    rw [← Set.ncard_insert_of_notMem fresh finite]
    congr 1
    ext x
    by_cases same : x = run <;> simp [same, counted]
  · rename_i other
    congr 1
    ext x
    by_cases same : x = run
    · simp [same, new, other]
    · simp [same]

/-- In the meantime nothing becomes of a record that is counted, unless it is lost. -/
theorem tells_of_meanwhile {r r' : Option Execution} (meanwhile : Meanwhile r r') (kept : r ≠ none → r' ≠ none) :
    launchOf r' = launchOf r ∧ failureOf r' = failureOf r := by
  cases meanwhile with
  | same => exact ⟨rfl, rfl⟩
  | cancelled e ended noted waits => exact ⟨rfl, by simp [failureOf, Run.cancelledAt, waits]⟩
  | lost =>
    cases r with
    | none => exact ⟨rfl, rfl⟩
    | some e => exact absurd rfl (kept (by simp))

namespace Counts

variable {counts : Int × Int × Option Instant}

theorem of_same (h : s.Counts id counts) (launches : s'.launches = s.launches) (failures : s'.failures = s.failures) :
    s'.Counts id counts where
  launched := launches ▸ h.launched
  failed := failures ▸ h.failed
  latest := launches ▸ h.latest

/-- Nothing is counted where there are no runs. -/
theorem of_no_runs (idle : ∀ run e, s.runs.get? run = some e → e.workflowId ≠ id) : s.Counts id (0, 0, none) where
  launched := by
    have empty : {run | ∃ launch, s.launches run = some launch ∧ launch.1 = id} = ∅ := by
      refine Set.eq_empty_of_forall_notMem ?_
      rintro run ⟨launch, launched, same⟩
      obtain ⟨e, stored, rfl⟩ := Option.map_eq_some_iff.mp launched
      exact idle run e stored same
    rw [empty, Set.ncard_empty]
    rfl
  failed := by
    have empty : {run | ∃ workflow, s.failures run = some workflow ∧ workflow = id} = ∅ := by
      refine Set.eq_empty_of_forall_notMem ?_
      rintro run ⟨workflow, failed, same⟩
      obtain ⟨e, stored, here⟩ := Option.bind_eq_some_iff.mp failed
      split at here
      · exact idle run e stored ((Option.some.inj here).trans same)
      · cases here
    rw [empty, Set.ncard_empty]
    rfl
  latest := by
    intro run time launched
    obtain ⟨e, stored, same⟩ := Option.map_eq_some_iff.mp launched
    exact idle run e stored (Prod.mk.inj same).1

section Launched

variable {w : Workflow} {n : Nat} {time : Instant} (new : s.launches (idOfCount n) = none)
  (launches : s'.launches = Function.update s.launches (idOfCount n) (some (own, time)))
  (failures : s'.failures = s.failures)

include launches in
theorem launches_before {m : Nat} (other : m ≠ n) : s'.launches (idOfCount m) = s.launches (idOfCount m) := by
  rw [launches, Function.update_of_ne fun same => other (idOfCount_injective same)]

include new launches failures

/-- A run of the workflow itself has been launched, later than all others. -/
theorem of_launched_own (h : s.Counts own w.counts) (bound : ∀ m, s.launches (idOfCount m) ≠ none → m < n) :
    s'.Counts own (w.launchedAt time).counts := by
  have count := ncard_update (s.finite_launches fun launch => launch.1 = own) new (own, time)
  rw [← launches] at count
  refine ⟨?_, failures ▸ h.failed, n, by rw [launches, Function.update_self], ?_⟩
  · have counted : w.executionCount = _ := h.launched
    show w.executionCount + 1 = _
    rw [count, counted, if_pos rfl, Nat.cast_add, Nat.cast_one]
  · intro m time' launched
    by_contra later
    rw [launches_before launches (by omega)] at launched
    have earlier := bound m (by simp [launched])
    omega

/-- A run of another workflow has been launched. -/
theorem of_launched_other (h : s.Counts id w.counts) (other : id ≠ own) : s'.Counts id w.counts := by
  have count := ncard_update (s.finite_launches fun launch => launch.1 = id) new (own, time)
  rw [← launches, if_neg other.symm, Nat.add_zero] at count
  have unlaunched (run : String) (time' : Instant) (launched : s'.launches run = some (id, time')) :
      s.launches run = some (id, time') := by
    rw [launches] at launched
    by_cases same : run = idOfCount n
    · rw [same, Function.update_self] at launched
      cases launched
      exact absurd rfl other
    · rwa [Function.update_of_ne same] at launched
  refine ⟨count ▸ h.launched, failures ▸ h.failed, ?_⟩
  have latest := h.latest
  cases last : w.counts.2.2 with
  | none =>
    rw [last] at latest
    exact fun run time' launched => latest run time' (unlaunched run time' launched)
  | some t =>
    rw [last] at latest
    obtain ⟨m, launched, later⟩ := latest
    have old : m ≠ n := by
      rintro rfl
      cases new.symm.trans launched
    exact ⟨m, (launches_before launches old).trans launched,
      fun m' time' launched => later m' time' (unlaunched _ _ launched)⟩

end Launched

/-- A run has been launched, later than all others. -/
theorem of_launched {w : Workflow} {n : Nat} {time : Instant} (h : s.Counts id w.counts)
    (bound : ∀ run, s.launches run ≠ none → ∃ m < n, run = idOfCount m)
    (launches : s'.launches = Function.update s.launches (idOfCount n) (some (own, time)))
    (failures : s'.failures = s.failures) : s'.Counts id (if id = own then w.launchedAt time else w).counts := by
  have below (m : Nat) (launched : s.launches (idOfCount m) ≠ none) : m < n := by
    obtain ⟨m', less, same⟩ := bound _ launched
    rwa [idOfCount_injective same]
  have new : s.launches (idOfCount n) = none := by
    by_contra old
    exact absurd (below n old) (lt_irrefl n)
  split
  · rename_i same
    subst same
    exact of_launched_own new launches failures h below
  · rename_i other
    exact of_launched_other new launches failures h other

/-- A run has failed. -/
theorem of_failed {w : Workflow} (h : s.Counts id w.counts) (new : s.failures run = none)
    (launches : s'.launches = s.launches) (failures : s'.failures = Function.update s.failures run (some own)) :
    s'.Counts id (if id = own then w.failedOnce else w).counts := by
  have count := ncard_update (s.finite_failures fun workflow => workflow = id) new own
  rw [← failures] at count
  split
  · rename_i same
    refine ⟨launches ▸ h.launched, ?_, launches ▸ h.latest⟩
    have counted : w.errorCount = _ := h.failed
    show w.errorCount + 1 = _
    rw [count, counted, if_pos same.symm, Nat.cast_add, Nat.cast_one]
  · rename_i other
    refine ⟨launches ▸ h.launched, ?_, launches ▸ h.latest⟩
    rw [count, if_neg (Ne.symm other), Nat.add_zero]
    exact h.failed

end Counts

theorem tells_of_runs (runs : s'.runs = s.runs) : s'.launches = s.launches ∧ s'.failures = s.failures := by
  constructor <;> funext run <;> simp only [launches, failures, runs]

/-- What a new record tells is on record. -/
theorem tells_of_set {e : Execution} (runs : s'.runs = s.runs.set run e) :
    s'.launches = Function.update s.launches run (launchOf (some e)) ∧
      s'.failures = Function.update s.failures run (failureOf (some e)) := by
  have launches : s'.launches = launchOf ∘ s'.runs.get? := rfl
  have failures : s'.failures = failureOf ∘ s'.runs.get? := rfl
  rw [launches, failures, runs, Ordered.get?_set, Function.comp_update, Function.comp_update]
  exact ⟨rfl, rfl⟩

theorem Counted.of_same (counted : s.Counted) (definitions : s'.definitions = s.definitions)
    (tells : s'.launches = s.launches ∧ s'.failures = s.failures) : s'.Counted :=
  fun id w stored => (counted id w (definitions ▸ stored)).of_same tells.1 tells.2

end Store

namespace Automation

variable {δ : Type} {setup : Setup δ} {origin : Origin} {a b : Automation δ} {past : List (Automation δ)}
  {request : Request}

theorem Errand.status_of_ready {errand : Errand} (ready : errand.Ready) :
    errand.record.status = errand.entry.expected := by
  cases errand <;> exact ready

/-- An errand that is ready is not for a run that has failed. -/
theorem Orderly.unfailed (orderly : Orderly a) {errand : Errand} (mem : errand ∈ a.queue) (ready : errand.Ready)
    {r : Execution} (stored : a.store.runs.get? errand.runId = some r) : a.store.failures errand.runId = none := by
  have meanwhile := (orderly.queue errand mem).2
  rw [stored] at meanwhile
  rw [Store.failures, stored, (Store.tells_of_meanwhile meanwhile (by simp)).2]
  cases errand <;> simp [Store.failureOf, Errand.status_of_ready ready, Errand.entry, Run.Entry.expected]

/-- The answer of a drive is the record that is stored then. It was launched when the one was that was stored before,
and that had not failed. -/
theorem Orderly.drive_answers (spares : ∀ id, (surroundings setup).Spares id) (orderly : Orderly a)
    (honest : Honest a) {errand : Errand} {rest : List Errand} (queue : a.queue = errand :: rest)
    (ready : errand.Ready) : ∃ driven, (drive setup errand a.desk).1 = .ok driven ∧
      a.store.failures errand.runId = none ∧
        (drive setup errand a.desk).2.world.store.runs.get? errand.runId = some driven.answer ∧
          Store.launchOf (some driven.answer) = a.store.launches errand.runId := by
  have mem : errand ∈ a.queue := queue ▸ List.mem_cons_self
  obtain ⟨-, meanwhile⟩ := orderly.queue errand mem
  obtain ⟨r, stored⟩ := Option.ne_none_iff_exists'.mp (honest.attended errand mem)
  have unfailed := orderly.unfailed mem ready stored
  obtain ⟨sound, course⟩ := honest.runs _ r stored
  have free : errand.record.id ∉ a.desk.active := by simp [orderly.idle]
  have kept := (orderly.drive_first setup queue).around.kept _ (spares errand.runId) (honest.attended errand mem)
  have launched : a.store.launches errand.runId = Store.launchOf (some r) := congrArg Store.launchOf stored
  rw [stored] at meanwhile
  rw [launched]
  rw [← errand.record_id] at stored course kept unfailed ⊢
  by_cases status : r.status = errand.entry.expected
  · obtain rfl := eq_record meanwhile status
    have ended := (errand.entry.ended (k := ledger setup) sound setup.limits orderly.kept free stored rfl course
      status).and (errand.entry.dated setup.limits errand.record a.desk)
    rw [← drive_eq] at ended
    rcases run : drive setup errand a.desk with ⟨_ | driven, d⟩
    · exact (ended.of_error run).1.elim
    · obtain ⟨ended, dated⟩ := ended.of_ok run
      rw [run] at kept
      have left := ended.left.resolve_left kept
      refine ⟨driven, rfl, unfailed, ended.answer ▸ left, ?_⟩
      simp only [Store.launchOf, Option.map_some, ended.answer, (ended.drove.own _ left).workflow, dated]
  · have moved := errand.entry.answers_moved (k := ledger setup) setup.limits orderly.kept free
      (Run.Entry.admits_of_status (Errand.status_of_ready ready)) stored status
    rw [← drive_eq] at moved
    rcases run : drive setup errand a.desk with ⟨_ | driven, d⟩
    · exact (moved.of_error run).elim
    · obtain ⟨answer, same⟩ := moved.of_ok run
      refine ⟨driven, rfl, unfailed, ?_, by rw [answer]⟩
      exact answer ▸ (congrFun same.record _).trans stored

/-- What is on record of launches bears identifiers that have been drawn. -/
theorem Orderly.launches_drawn (orderly : Orderly a) (run : String) (launched : a.store.launches run ≠ none) :
    ∃ m < a.store.drawn + 1, run = Store.idOfCount m := by
  have stored : a.store.runs.get? run ≠ none := fun missing => launched (congrArg Store.launchOf missing)
  obtain ⟨m, bound, same⟩ := orderly.runs run stored
  exact ⟨m, Nat.lt_succ_of_le bound, same⟩

/-- A run that is launched is counted. -/
theorem Orderly.counts_launched (orderly : Orderly a) (counted : a.store.Counted) {s₁ s : Store} {w : Workflow}
    {kind : TriggerKind} {payload : Members}
    (reruns : a.store.Reruns (a.store.runs.set a.store.fresh.id (.launched a.store.fresh w kind payload)) s₁)
    (redefines : s₁.Redefines (Store.touched w.id (Workflow.launchedAt a.store.now) s₁.definitions) s) : s.Counted := by
  obtain ⟨launches, failures⟩ := Store.tells_of_set (redefines.runs.trans reruns.runs)
  have undrawn : a.store.runs.get? a.store.fresh.id = none := by
    by_contra present
    exact a.store.not_drawn_fresh (orderly.runs _ present)
  have well : Store.failureOf (some (.launched a.store.fresh w kind payload)) = a.store.failures a.store.fresh.id := by
    rw [Store.failures, undrawn]
    rfl
  rw [well, Function.update_eq_self] at failures
  intro id w' stored
  rw [redefines.definitions, reruns.definitions, Store.get?_touched, Option.map_eq_some_iff] at stored
  obtain ⟨old, known, rfl⟩ := stored
  exact (counted id old known).of_launched orderly.launches_drawn launches failures

/-- An errand that has been carried out is counted if its run has failed. -/
theorem Orderly.counts_carried (spares : ∀ id, (surroundings setup).Spares id) (orderly : Orderly a)
    (honest : Honest a) (counted : a.store.Counted) {errand : Errand} {rest : List Errand} {s : Store}
    (queue : a.queue = errand :: rest) (ready : errand.Ready)
    (redefines : (drive setup errand a.desk).2.world.store.Redefines
      (Store.noted (drive setup errand a.desk).1 (drive setup errand a.desk).2.world.store.definitions) s) :
    s.Counted := by
  obtain ⟨driven, answers, unfailed, stored, launched⟩ := orderly.drive_answers spares honest queue ready
  have around := (orderly.drive_first setup queue).around
  have definitions : (drive setup errand a.desk).2.world.store.definitions = a.store.definitions := around.drift.1
  have tells (run : String) (other : run ≠ errand.runId) :=
    Store.tells_of_meanwhile (around.others run other) (around.kept run (spares run))
  have launches : s.launches = a.store.launches := by
    funext run
    by_cases own : run = errand.runId
    · rw [own, Store.launches, redefines.runs, stored, launched]
    · rw [Store.launches, redefines.runs]
      exact (tells run own).1
  have failures : s.failures = Function.update a.store.failures errand.runId
      (Store.failureOf (some driven.answer)) := by
    funext run
    by_cases own : run = errand.runId
    · rw [own, Function.update_self, Store.failures, redefines.runs, stored]
    · rw [Function.update_of_ne own, Store.failures, redefines.runs]
      exact (tells run own).2
  have redefined := redefines.definitions
  rw [answers, definitions] at redefined
  rw [Store.failureOf, Option.bind_some] at failures
  by_cases failed : driven.answer.status = .failed
  · rw [if_pos failed] at failures
    rw [Store.noted_of_failed failed] at redefined
    intro id w' present
    rw [redefined, Store.get?_touched, Option.map_eq_some_iff] at present
    obtain ⟨old, known, rfl⟩ := present
    exact (counted id old known).of_failed unfailed launches failures
  · rw [if_neg failed, ← unfailed, Function.update_eq_self] at failures
    rw [Store.noted_of_not_failed failed] at redefined
    exact counted.of_same redefined ⟨launches, failures⟩

section Moves

variable (spares : ∀ id, (surroundings setup).Spares id)
include spares

/-- Every motion counts what it puts on record. -/
theorem Motion.counted (motion : Motion setup origin a b) (orderly : Orderly a) (honest : Honest a)
    (ready : ∀ errand ∈ a.queue, errand.Ready) (counted : a.store.Counted) : b.store.Counted := by
  cases motion with
  | rested reruns => exact counted.of_same reruns.definitions (Store.tells_of_runs reruns.runs)
  | launched new reruns drawn redefines => exact orderly.counts_launched counted reruns redefines
  | queued => exact counted
  | @carried errand rest s queue redefines =>
    exact orderly.counts_carried spares honest counted queue (ready errand (queue ▸ List.mem_cons_self)) redefines
  | asked id =>
    have asked := (Run.requestCancel_spec (k := ledger setup) orderly.kept id).state
    have tells (run : String) := Store.tells_of_meanwhile (meanwhile_of_asked asked run) asked.kept
    exact counted.of_same asked.drift.1 ⟨funext fun run => (tells run).1, funext fun run => (tells run).2⟩

omit spares in
/-- The errands that are taken in are for copies that are taken up. -/
theorem Motion.ready (motion : Motion setup origin a b) (ready : ∀ errand ∈ a.queue, errand.Ready) :
    ∀ errand ∈ b.queue, errand.Ready := by
  cases motion with
  | rested => exact ready
  | launched => exact ready
  | queued idle known drawn meanwhile kept new =>
    intro errand mem
    rcases List.mem_append.mp mem with mem | mem
    · exact ready errand mem
    · exact List.mem_singleton.mp mem ▸ new
  | carried queue => exact fun errand mem => ready errand (queue ▸ List.mem_cons_of_mem _ mem)
  | asked => exact ready

theorem Motions.counted (sound : ∀ e, origin.of e → e.graph.Valid) (motions : Motions setup origin a b)
    (orderly : Orderly a) (honest : Honest a) (ready : ∀ errand ∈ a.queue, errand.Ready) (counted : a.store.Counted) :
    (∀ errand ∈ b.queue, errand.Ready) ∧ b.store.Counted := by
  induction motions with
  | refl => exact ⟨ready, counted⟩
  | tail earlier motion ih =>
    have moves := Motions.moves earlier
    exact ⟨motion.ready ih.1, motion.counted spares (moves.orderly orderly)
      (moves.honest spares sound orderly honest) ih.1 ih.2⟩

omit spares in
theorem Request.OnDefinitions.queue (on : request.OnDefinitions) : (a.after setup request).queue = a.queue := by
  have stays {α : Type} (x : Act Store α) : (inStore x a).2.queue = a.queue := by
    have same : (inStore x).Ensures a (fun _ b => b.queue = a.queue) fun _ b => b.queue = a.queue :=
      ensures_inStore.mpr ((Act.Ensures.run x a.store).mono (fun _ _ _ => rfl) fun _ _ _ => rfl)
    exact same.state
  cases request <;> first | exact stays _ | exact on.elim

omit spares in
/-- What a request makes of definitions is counted, if what it adds was not there at any time. -/
theorem Session.counts_revised (session : Session setup past a) (fresh : request.Fresh (a :: past) a)
    (on : request.OnDefinitions) (counted : a.store.Counted) : (a.after setup request).store.Counted := by
  have idle (id : String) (created : request.creates a = some id) (run : String) (e : Execution)
      (stored : a.store.runs.get? run = some e) : e.workflowId ≠ id := by
    rintro rfl
    have own := session.steady.orderly.kept.runs.label_eq stored
    obtain ⟨before, mem, w, known, -⟩ := session.graph_stored a List.mem_cons_self e (.inl (own ▸ stored))
    cases (fresh.new _ created before mem).symm.trans known
  have revises := on.revises setup session.steady.orderly.kept
  rw [← act_state]
  rcases run : request.act setup a with ⟨failure | _, b⟩
  · have revises := revises.of_error run
    intro id w' stored
    rcases revises.each id w' stored with ⟨none, -⟩ | ⟨w, known, counts, -⟩
    · cases none
    · have tells := Store.tells_of_runs revises.runs
      exact counts ▸ (counted id w known).of_same tells.1 tells.2
  · have revises := revises.of_ok run
    intro id w' stored
    rcases revises.each id w' stored with ⟨created, counts⟩ | ⟨w, known, counts, -⟩
    · rw [counts]
      exact .of_no_runs fun run e present => idle id created run e (revises.runs ▸ present)
    · have tells := Store.tells_of_runs revises.runs
      exact counts ▸ (counted id w known).of_same tells.1 tells.2

theorem Register.counted (register : Register setup past a) :
    (∀ errand ∈ a.queue, errand.Ready) ∧ a.store.Counted := by
  induction register with
  | opened now drawn agent =>
    refine ⟨fun errand mem => absurd mem List.not_mem_nil, ?_⟩
    intro id w stored
    cases stored
  | @asked past a register request fresh ih =>
    have session := register.session
    rcases fresh.served with on | on
    · refine ⟨?_, session.counts_revised fresh on ih.2⟩
      rw [on.queue]
      exact ih.1
    · have goes := goes_after session.steady (session.sources request) on
      exact Motions.counted spares (fun _ sound => sound) goes.motions session.steady.orderly (session.honest spares)
        ih.1 ih.2

/-- At every point of a session in which no identifier is given twice, the counts of a stored workflow are those of the
stored runs: how many there are of it, how many of them have failed, and when the latest was launched, which is the one
whose identifier was drawn last. -/
theorem Register.keeps_counts (register : Register setup past a) {id : String} {w : Workflow}
    (stored : a.store.definitions.get? id = some w) :
    w.executionCount = a.store.runs.values.countP (fun e => e.workflowId = id) ∧
      w.errorCount = a.store.runs.values.countP (fun e => e.workflowId = id ∧ e.status = .failed) ∧
        (w.lastExecutedAt = none ∧ (∀ run e, a.store.runs.get? run = some e → e.workflowId ≠ id) ∨
          ∃ n e, a.store.runs.get? (Store.idOfCount n) = some e ∧ e.workflowId = id ∧
            w.lastExecutedAt = some e.startedAt ∧
              ∀ run e', a.store.runs.get? run = some e' → e'.workflowId = id → ∃ m ≤ n, run = Store.idOfCount m) := by
  have orderly := register.session.steady.orderly
  obtain ⟨launched, failed, latest⟩ := (register.counted spares).2 id w stored
  rw [Ordered.countP_values orderly.kept.runs.nodup, Ordered.countP_values orderly.kept.runs.nodup]
  refine ⟨?_, ?_, ?_⟩
  · refine launched.trans (congrArg (fun runs : Set String => (runs.ncard : Int)) ?_)
    ext run
    simp [Store.launches, Store.launchOf]
  · refine failed.trans (congrArg (fun runs : Set String => (runs.ncard : Int)) ?_)
    ext run
    simp [Store.failures, Store.failureOf, Option.bind_eq_some_iff, and_comm]
  · have launches {run : String} {e : Execution} (stored : a.store.runs.get? run = some e) (own : e.workflowId = id) :
        a.store.launches run = some (id, e.startedAt) := by rw [Store.launches, stored, ← own]; rfl
    cases last : w.lastExecutedAt with
    | none =>
      rw [show w.counts.2.2 = none from last] at latest
      exact .inl ⟨rfl, fun run e stored own => latest run e.startedAt (launches stored own)⟩
    | some time =>
      rw [show w.counts.2.2 = some time from last] at latest
      obtain ⟨n, launched, later⟩ := latest
      obtain ⟨e, stored, same⟩ := Option.map_eq_some_iff.mp launched
      obtain ⟨own, rfl⟩ := Prod.mk.inj same
      refine .inr ⟨n, e, stored, own, rfl, ?_⟩
      intro run e' stored' own'
      obtain ⟨m, -, rfl⟩ := orderly.runs run (by simp [stored'])
      exact ⟨m, later m e'.startedAt (launches stored' own'), rfl⟩

end Moves

end Automation

/-- A workflow that has been launched once and disabled since has one run, whose launch it remembers. -/
theorem Trial.resting_counts : (∀ id, (Automation.surroundings Trial.swift).Spares id) ∧
    ∃ w, Trial.resting.store.definitions.get? "flow" = some w ∧
      w.executionCount = Trial.resting.store.runs.values.countP (fun e => e.workflowId = "flow") ∧
        w.executionCount = 1 := by
  have kept : ∀ id, (Automation.surroundings Trial.swift).Spares id := Trial.spares
  have launched : (Trial.resting.store.definitions.get? "flow").map Workflow.executionCount = some 1 := by
    decide +kernel
  obtain ⟨w, stored, once⟩ := Option.map_eq_some_iff.mp launched
  exact ⟨kept, w, stored, (Trial.restingRegister.keeps_counts kept stored).1, once⟩

end TriggerFlow
