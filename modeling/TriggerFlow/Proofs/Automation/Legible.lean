import TriggerFlow.Proofs.Automation.Remembering
import TriggerFlow.Proofs.Automation.Statistics
import TriggerFlow.Proofs.Clock
import TriggerFlow.Proofs.Run.Waiting

/-!
# What a session stores of runs that wait

As long as no record is lost, every stored run that waits has a wait that can be read. If the clock has told its offset
all along, the points in time of the wait tell theirs, and so does the time at which the run was launched. What a
request goes through on its way counts here as well: a run may be launched and driven long after the clock has told the
time of the request.
-/

namespace TriggerFlow

open Run (Meanwhile SameRun)

namespace Store

variable {timed : Prop}

/-- The clock tells its offset, if it is to. -/
def Told (timed : Prop) (s : Store) : Prop := timed → s.Aware

theorem told_indifferent (timed : Prop) : Indifferent (Told timed) :=
  ⟨⟨fun told _ => told, fun _ told _ => told, fun _ told _ _ => told, fun _ told _ => told⟩,
    fun _ told _ => told, fun _ told _ => told⟩

theorem pass_told (timed : Prop) (micros : Int) : (World.pass micros).Preserves (Told timed) :=
  fun s told => fun clock => World.pass_aware micros s (told clock)

end Store

namespace Automation

variable {δ : Type} {setup : Setup δ} {timed : Prop}

/-- The ledger of the system whose clock tells its offset, if it is to. -/
def clocked (setup : Setup δ) (timed : Prop) : Run.Ledger (surroundings setup) :=
  (ledger setup).within 
    (surroundings_preserve setup (Store.told_indifferent timed) (Store.pass_told timed))

/-- Its clock tells its offset if it is to, and else it need not. -/
theorem clocked_timed (w : World δ) : (clocked setup timed).Timed ↔ timed := by
  refine ⟨fun tells => ?_, fun told _ valid => valid.2 told⟩
  by_contra untold
  let m : Keeping := .memory ⟨[], [], []⟩
  have naive := tells { w with store := ⟨⟨0, none⟩, 0, [], m⟩ } ⟨⟨⟨_, rfl⟩, .nil, .nil⟩, fun told => absurd told untold⟩
  cases naive

end Automation

/-- A record that can be read, and that tells when its run was launched as the clock tells the time. -/
def Execution.Legible (timed : Prop) (e : Execution) : Prop := e.Readable timed ∧ (timed → e.startedAt.isAware = true)

namespace Automation

variable {δ : Type} {setup : Setup δ} {origin : Origin} {a b : Automation δ} {past : List (Automation δ)}
  {timed : Prop}

theorem legible_of_meanwhile {r r' : Option Execution} (meanwhile : Meanwhile r r')
    (legible : ∀ e, r = some e → e.Legible timed) : ∀ e, r' = some e → e.Legible timed := by
  cases meanwhile with
  | same => exact legible
  | cancelled e ended noted waits =>
    intro _ same
    cases same
    exact ⟨.of_awake (by simp [Run.cancelledAt]), (legible e rfl).2⟩
  | lost =>
    intro _ none
    cases none

/-- A state in order, with records on their courses that can be read. -/
structure Sane (timed : Prop) (a : Automation δ) : Prop where
  orderly : Orderly a
  honest : Honest a
  told : a.store.Told timed
  runs : ∀ id e, a.store.runs.get? id = some e → e.Legible timed

/-- Whatever an errand leaves of its run can be read. -/
theorem Sane.drive (sane : Sane timed a) {errand : Errand} {rest : List Errand} (queue : a.queue = errand :: rest) :
    ∀ e, (Automation.drive setup errand a.desk).2.world.store.runs.get? errand.runId = some e → e.Legible timed := by
  have mem : errand ∈ a.queue := queue ▸ List.mem_cons_self
  obtain ⟨-, meanwhile⟩ := sane.orderly.queue errand mem
  obtain ⟨r, stored⟩ := Option.ne_none_iff_exists'.mp (sane.honest.attended errand mem)
  have legible := sane.runs _ r stored
  obtain ⟨sound, course⟩ := sane.honest.runs _ r stored
  have free : errand.record.id ∉ a.desk.active := by simp [sane.orderly.idle]
  have valid : (clocked setup timed).valid a.desk.world := ⟨sane.orderly.kept, sane.told⟩
  have clock : (clocked setup timed).Timed = timed := propext (clocked_timed a.desk.world)
  rw [stored] at meanwhile
  rw [drive_eq, ← errand.record_id]
  rw [← errand.record_id] at stored course
  intro e left
  by_cases status : r.status = errand.entry.expected
  · obtain rfl := eq_record meanwhile status
    have readable := errand.entry.enter_readable (k := clocked setup timed) sound setup.limits valid free stored rfl
      course (clock.symm ▸ legible.1) e left
    have ended := (errand.entry.ended (k := clocked setup timed) sound setup.limits valid free stored rfl course
      status).and (errand.entry.dated setup.limits errand.record a.desk)
    refine ⟨clock ▸ readable, fun told => ?_⟩
    rcases run : errand.entry.enter (surroundings setup) setup.limits errand.record a.desk with ⟨_ | driven, d⟩
    · exact (ended.of_error run).1.elim
    · obtain ⟨ended, dated⟩ := ended.of_ok run
      rw [run] at left
      rcases ended.left with lost | copy
      · cases lost.symm.trans left
      · cases copy.symm.trans left
        exact dated ▸ legible.2 told
  · have passed : Run.Passed (clocked setup timed) a.desk _ :=
      (errand.entry.enter_of_moved (k := clocked setup timed) setup.limits valid stored status).2.state
    cases (congrFun passed.same.record _).symm.trans left |>.symm.trans stored
    exact legible

section Moves

variable (spares : ∀ id, (surroundings setup).Spares id)
include spares

/-- What a motion leads to is in order if what it leaves of the clock is. -/
theorem Motion.sane (motion : Motion setup origin a b) (sound : ∀ e, origin.of e → e.graph.Valid)
    (sane : Sane timed a) (told : b.store.Told timed) : Sane timed b := by
  have moves := motion.moves
  refine ⟨moves.orderly sane.orderly, moves.honest spares sound sane.orderly sane.honest, told, ?_⟩
  cases motion with
  | rested reruns => exact fun id e stored => sane.runs id e (reruns.runs ▸ stored)
  | @launched s₁ s w kind payload new reruns drawn counted =>
    intro id e stored
    change s.runs.get? id = some e at stored
    rw [counted.runs, reruns.runs, Ordered.get?_set] at stored
    by_cases fresh : id = a.store.fresh.id
    · rw [fresh, Function.update_self] at stored
      cases stored
      exact ⟨.of_awake nofun, sane.told⟩
    · rw [Function.update_of_ne fresh] at stored
      exact sane.runs id e stored
  | queued => exact sane.runs
  | @carried errand rest s queue counted =>
    intro id e stored
    change s.runs.get? id = some e at stored
    rw [counted.runs] at stored
    by_cases own : id = errand.runId
    · exact sane.drive queue e (own ▸ stored)
    · have around := (sane.orderly.drive_first setup queue).around
      exact legible_of_meanwhile (around.others id own) (sane.runs id) e stored
  | asked id =>
    have asked := (Run.requestCancel_spec (k := ledger setup) sane.orderly.kept id).state
    exact fun other => legible_of_meanwhile (meanwhile_of_asked asked other) (sane.runs other)

/-- So is what an edit of definitions leads to. -/
theorem Sane.edited (sane : Sane timed a) {s : Store} (edits : a.store.Edits s) (told : s.Told timed) :
    Sane timed (a.withStore s) := by
  have moves : Moves setup (.plain fun _ => False) a (a.withStore s) := .single (.edited edits)
  exact ⟨moves.orderly sane.orderly, moves.honest spares (fun _ => False.elim) sane.orderly sane.honest, told,
    fun id e stored => sane.runs id e (edits.runs ▸ stored)⟩

/-- Errands that are carried out one after the other leave the system in order. -/
theorem carryOutEach_sane : ∀ {queue : List Errand} {a : Automation δ}, Sane timed a → a.queue = queue →
    (carryOutEach setup queue).Ensures a (fun _ => Sane timed) fun _ _ => False
  | [], _, sane, _ => sane
  | errand :: rest, a, sane, queue => by
    have preserves := carryOut_preserves setup (Store.told_indifferent timed) (Store.pass_told timed) errand
    have carried := (carryOut_spec (.plain fun e => e.graph.Valid) sane.orderly queue).and (preserves.ensures sane.told)
    refine Act.ensures_bind.mpr (carried.mono ?_ fun _ _ none => none.1)
    rintro - b ⟨⟨motion, -⟩, told⟩
    refine Act.ensures_bind.mpr (Act.ensures_modify.mpr ?_)
    exact carryOutEach_sane (motion.sane spares (fun _ sound => sound) sane told) rfl

section Errands

variable (errand : Errand) (sane : Sane timed a) (known : errand.record.graph.Valid)
  (drawn : a.store.Drawn errand.runId) (meanwhile : Meanwhile (some errand.record) (a.store.runs.get? errand.runId))
  (present : a.store.runs.get? errand.runId ≠ none)
include sane known drawn meanwhile present

theorem Sane.queued (idle : inFlight errand.runId a = false) :
    Sane timed { a with queue := a.queue ++ [errand] } := by
  have moves : Moves setup (.plain fun e => e.graph.Valid) a { a with queue := a.queue ++ [errand] } :=
    .single (.queued idle known drawn meanwhile fun _ => present)
  exact ⟨moves.orderly sane.orderly, moves.honest spares (fun _ sound => sound) sane.orderly sane.honest, sane.told,
    sane.runs⟩

theorem submit_sane : (submit setup errand).Ensures a (fun _ => Sane timed) fun _ _ => False := by
  refine Act.ensures_bind.mpr (Act.ensures_ask.mpr ?_)
  cases idle : inFlight errand.runId a with
  | true => exact sane
  | false =>
    have queued := sane.queued spares errand known drawn meanwhile present idle
    refine Act.ensures_bind.mpr (Act.ensures_modify.mpr ?_)
    cases eager : setup.eager with
    | false => exact queued
    | true => exact Act.ensures_bind.mpr (Act.ensures_ask.mpr (carryOutEach_sane spares queued rfl))

end Errands

theorem launch_sane (sane : Sane timed a) {w : Workflow} (sound : w.graph.Valid) (kind : TriggerKind)
    (payload : Members) : (launch setup w kind payload).Ensures a (fun _ => Sane timed) fun _ _ => False := by
  have told := ((Store.told_indifferent timed).createRun w kind payload).ensures sane.told
  refine Act.ensures_bind.mpr (ensures_inStore.mpr (((Store.createRun_spec sane.orderly.kept w kind payload).and
    told).mono ?_ fun _ _ none => none.1))
  rintro e s ⟨⟨rfl, s₁, reruns, drawn, counted⟩, told⟩
  have motion : Motion setup (.plain fun e => e.graph.Valid) a (a.withStore s) :=
    .launched ⟨sound, trivial⟩ reruns drawn counted
  have created := motion.sane spares (fun _ sound => sound) sane told
  have stored : (a.withStore s).store.runs.get? a.store.fresh.id = some (.launched a.store.fresh w kind payload) := by
    show s.runs.get? _ = _
    rw [counted.runs, reruns.runs, Ordered.get?_set_self]
  have drawn' : (a.withStore s).store.Drawn a.store.fresh.id :=
    ⟨a.store.drawn + 1, drawn.trans_le counted.drawn, rfl⟩
  have submitted := submit_sane spares (.start (.launched a.store.fresh w kind payload)) created sound drawn'
    (stored ▸ .same _) (by simp [Errand.runId, Execution.launched, stored])
  exact Act.ensures_bind.mpr (submitted.mono (fun _ _ sane => sane) fun _ _ none => none.elim)

theorem launchEach_sane : ∀ {firing : List (Workflow × TriggerKind)} {a : Automation δ}, Sane timed a →
    (∀ p ∈ firing, p.1.graph.Valid) →
      ((launcher setup).launchEach firing).Ensures a (fun _ => Sane timed) fun _ _ => False
  | [], _, sane, _ => sane
  | (w, kind) :: rest, a, sane, sound => by
    have launched := launch_sane spares sane (sound (w, kind) List.mem_cons_self) kind []
    refine Act.ensures_bind.mpr (Act.ensures_attempt.mpr (launched.mono ?_ fun _ _ none => none.elim))
    intro e b sane
    have others := launchEach_sane sane fun p mem => sound p (List.mem_cons_of_mem _ mem)
    exact Act.ensures_bind.mpr (others.mono (fun _ _ sane => sane) fun _ _ none => none)

theorem deliverEach_sane (payload : Members) : ∀ {found : List (Workflow × Trigger)} {a : Automation δ}, Sane timed a →
    (∀ p ∈ found, p.1.graph.Valid) →
      ((launcher setup).deliverEach payload found).Ensures a (fun _ => Sane timed) fun _ => Sane timed
  | [], _, sane, _ => sane
  | (w, t) :: rest, a, sane, sound => by
    have others {b : Automation δ} (sane : Sane timed b) :=
      deliverEach_sane payload sane fun p mem => sound p (List.mem_cons_of_mem _ mem)
    have next {b : Automation δ} (sane : Sane timed b) (launched : Option Execution) : (do
        let others ← (launcher setup).deliverEach payload rest
        pure (launched.toList ++ others) : Act (Automation δ) (List Execution)).Ensures b (fun _ => Sane timed)
          fun _ => Sane timed :=
      Act.ensures_bind.mpr ((others sane).mono (fun _ _ sane => sane) fun _ _ sane => sane)
    refine Act.ensures_bind.mpr (Act.ensures_lift.mpr ⟨fun passes _ => ?_, fun _ _ => sane⟩)
    cases passes with
    | false => exact Act.ensures_bind.mpr (next sane none)
    | true =>
      have launched := launch_sane spares sane (sound (w, t) List.mem_cons_self) .event payload
      refine Act.ensures_bind.mpr (Act.ensures_map.mpr (Act.ensures_attempt.mpr (launched.mono ?_
        fun _ _ none => none.elim)))
      exact fun _ _ sane => next sane _

/-- Copies of waiting runs that were read from the store a while ago are taken in, unless their runs have errands
already. -/
theorem resumeEach_sane (time : Instant) (context : Members) : ∀ {found : List Execution} {a : Automation δ},
    Steady setup a → Sane timed a → (found.map Execution.id).Nodup →
      (∀ e ∈ found, e.graph.Valid ∧ a.store.Drawn e.id ∧ Meanwhile (some e) (a.store.runs.get? e.id) ∧
        a.store.runs.get? e.id ≠ none) →
        (resumeEach setup time context found).Ensures a (fun _ => Sane timed) fun _ => Sane timed
  | [], a, _, sane, _, _ => sane
  | e :: rest, a, steady, sane, nodup, copies => by
    obtain ⟨once, nodup⟩ := List.nodup_cons.mp nodup
    obtain ⟨known, drawn, meanwhile, present⟩ := copies e List.mem_cons_self
    have later := fun e' mem => copies e' (List.mem_cons_of_mem e mem)
    have next (due : Bool) : (do
        if due then submit setup (.resume e (some time) context)
        let others ← resumeEach setup time context rest
        pure (if due then e.id :: others else others) : Act (Automation δ) (List String)).Ensures a
          (fun _ => Sane timed) fun _ => Sane timed := by
      cases due with
      | false => exact Act.ensures_bind.mpr ((resumeEach_sane time context steady sane nodup later).mono
          (fun _ _ sane => sane) fun _ _ sane => sane)
      | true =>
        have walked := submit_walks (.plain fun e => e.graph.Valid) steady (.resume e (some time) context) known drawn
          meanwhile fun _ => present
        have submitted := submit_sane spares (.resume e (some time) context) sane known drawn meanwhile present
        refine Act.ensures_bind.mpr ((walked.and submitted).mono ?_ fun _ _ none => none.1.elim)
        rintro - b ⟨⟨reaches, aside⟩, sane'⟩
        have still : ∀ e' ∈ rest, e'.graph.Valid ∧ b.store.Drawn e'.id ∧
            Meanwhile (some e') (b.store.runs.get? e'.id) ∧ b.store.runs.get? e'.id ≠ none := by
          intro e' mem
          obtain ⟨known, drawn, meanwhile, present⟩ := later e' mem
          have other : e'.id ∉ [e.id] := fun same =>
            once (List.mem_singleton.mp same ▸ List.mem_map_of_mem mem)
          exact ⟨known, drawn.mono (reaches.moves.drawn_le steady.orderly), meanwhile.trans (aside _ other),
            reaches.moves.kept steady.orderly (spares _) present⟩
        exact Act.ensures_bind.mpr ((resumeEach_sane time context (reaches.steady steady) sane' nodup still).mono
          (fun _ _ sane => sane) fun _ _ sane => sane)
    refine Act.ensures_bind.mpr (Act.ensures_ask.mpr ?_)
    split
    · exact Act.ensures_bind.mpr (Act.ensures_pure.mpr (next false))
    · exact Act.ensures_bind.mpr (Act.ensures_lift.mpr ⟨fun due _ => next due, fun _ _ => sane⟩)

theorem resumeDue_sane (steady : Steady setup a) (sane : Sane timed a) (time : Instant) (context : Members) :
    (resumeDue setup time context).Ensures a (fun _ => Sane timed) fun _ => Sane timed := by
  refine Act.ensures_bind.mpr (ensures_inStore.mpr ((Store.executions_spec steady.orderly.kept _).mono ?_ ?_))
  · rintro found s ⟨same, nodup, stored⟩
    rw [same]
    refine resumeEach_sane spares time context steady sane nodup fun e mem => ?_
    obtain ⟨here, -⟩ := stored e mem
    have present : a.store.runs.get? e.id ≠ none := by simp [here]
    exact ⟨(sane.honest.runs _ e here).1, steady.orderly.runs e.id present, here ▸ .same _, present⟩
  · rintro _ s same
    rw [same]
    exact sane

end Moves

/-- To look at all triggers, and to keep what is remembered of them, leaves the clock alone. -/
theorem due_told (now : Instant) (context : Members) : (Launcher.due now context).Preserves (Store.Told timed) := by
  have saves (kept : Ordered TriggerMemory) : (Store.saveTriggers kept).Preserves (Store.Told timed) := by
    refine .bind (.ask _) fun kind => ?_
    cases kind with
    | memory m => exact .modify fun _ told => told
    | files shelf => exact .modify fun _ told => told
  have looks : Store.triggers.Preserves (Store.Told timed) := fun s told => by rwa [Store.triggers_eq]
  refine (Store.told_indifferent timed).listening.bind fun found => looks.bind fun stored => .bind (.lift _ _) ?_
  rintro ⟨firing, memories⟩
  dsimp only
  split
  · exact (saves _).bind fun _ => .pure _
  · exact .pure _

section Requests

variable (spares : ∀ id, (surroundings setup).Spares id) (sane : Sane timed a)
include spares sane

theorem submitStored_sane (id : String) :
    (submitStored setup id).Ensures a (fun _ => Sane timed) fun _ => Sane timed := by
  refine Act.ensures_bind.mpr (ensures_inStore.mpr ((Store.theExecution_spec sane.orderly.kept id).mono ?_ ?_))
  · rintro e s ⟨same, stored⟩
    rw [same]
    obtain rfl := sane.orderly.kept.runs.label_eq stored
    have present : a.store.runs.get? e.id ≠ none := by simp [stored]
    have submitted := submit_sane spares (.start e) sane (sane.honest.runs _ e stored).1
      (sane.orderly.runs e.id present) (stored ▸ .same _) present
    exact Act.ensures_bind.mpr (submitted.mono (fun _ _ sane => sane) fun _ _ none => none.elim)
  · rintro _ s same
    rw [same]
    exact sane

theorem cancel_sane (id : String) : (cancel setup id).Ensures a (fun _ => Sane timed) fun _ => Sane timed := by
  have preserve := surroundings_preserve setup (Store.told_indifferent timed) (Store.pass_told timed)
  have asked : Motion setup (.plain fun e => e.graph.Valid) a _ := .asked id
  have sane' : Sane timed { a with desk := (Run.requestCancel (surroundings setup) id a.desk).2 } :=
    Motion.sane spares asked (fun _ sound => sound) sane (preserve.requestCancel id a.desk sane.told)
  refine Act.ensures_bind.mpr (ensures_atDesk.mpr ((Act.Ensures.run _ a.desk).mono ?_ ?_))
  · intro _ d ran
    rw [ran] at sane'
    refine ensures_inStore.mpr ((Store.theExecution_spec sane'.orderly.kept id).mono ?_ ?_)
    · rintro e s ⟨same, -⟩
      rw [same]
      exact sane'
    · rintro _ s same
      rw [same]
      exact sane'
  · intro _ d ran
    rw [ran] at sane'
    exact sane'

variable (sound : ∀ w, Offered a.store w → w.graph.Valid)
include sound

theorem run_sane (id : String) (vars : Members) :
    (run setup id vars).Ensures a (fun _ => Sane timed) fun _ => Sane timed := by
  refine Act.ensures_bind.mpr (ensures_inStore.mpr ((Store.workflow?_spec sane.orderly.kept id).mono ?_
    fun _ _ none => none.elim))
  rintro found s ⟨rfl, same⟩
  rw [same]
  cases stored : a.store.definitions.get? id with
  | none => exact sane
  | some w =>
    dsimp only
    split
    · exact sane
    · rename_i on
      have here : w.id = id := sane.orderly.kept.definitions.label_eq stored
      have offered : Offered a.store w := ⟨here ▸ stored, by simpa using on⟩
      refine Act.ensures_bind.mpr ((Store.requireSound_spec w.graph).mono ?_ ?_)
      · rintro - b ⟨same, -⟩
        rw [same]
        exact (launch_sane spares sane (sound w offered) .manual vars).mono (fun _ _ sane => sane)
          fun _ _ none => none.elim
      · rintro _ b ⟨same, -⟩
        rw [same]
        exact sane

theorem emit_sane (event : String) (payload : Members) :
    (emit setup event payload).Ensures a (fun _ => Sane timed) fun _ => Sane timed := by
  refine Act.ensures_bind.mpr (ensures_inStore.mpr ((listening_spec sane.orderly.kept).mono ?_
    fun _ _ none => none.elim))
  rintro found s ⟨same, offered⟩
  rw [same]
  exact deliverEach_sane spares payload sane fun p mem => sound p.1 (offered p (List.mem_of_mem_filter mem))

/-- What a tick launches leaves the system in order. -/
theorem launcher_tick_sane (now : Instant) (context : Members) :
    ((launcher setup).tick now context).Ensures a (fun _ => Sane timed) fun _ => Sane timed := by
  have looked := (due_spec sane.orderly.kept now context).and ((due_told now context).ensures sane.told)
  refine Act.ensures_bind.mpr (ensures_inStore.mpr (looked.mono ?_ ?_))
  · rintro firing s ⟨⟨reruns, offered⟩, told⟩
    have sane' := sane.edited spares (.of_reruns reruns) told
    exact (launchEach_sane spares sane' fun p mem => sound p.1 (offered p mem)).mono (fun _ _ sane => sane)
      fun _ _ none => none.elim
  · exact fun _ s ⟨reruns, told⟩ => sane.edited spares (.of_reruns reruns) told

variable (steady : Steady setup a)
include steady

theorem tick_sane (time : Option Instant) (context : Members) :
    (tick setup time context).Ensures a (fun _ => Sane timed) fun _ => Sane timed := by
  refine Act.ensures_bind.mpr (ensures_inStore.mpr (Act.ensures_ask.mpr (Act.ensures_bind.mpr ?_)))
  have travels := launcher_tick_travels steady (sources_trivial a (.tick time context)) (time.getD a.store.now)
  refine (travels.and (launcher_tick_sane spares sane sound _ context)).mono ?_ fun _ _ both => both.2
  rintro started b ⟨goes, sane'⟩
  have resumed := resumeDue_sane spares (goes.steady steady) sane' (time.getD a.store.now) context
  exact Act.ensures_bind.mpr (resumed.mono (fun _ _ sane => sane) fun _ _ sane => sane)

/-- Whatever is asked of the system leaves it in order, if it leaves the clock so. -/
theorem sane_after (request : Request) (told : (a.after setup request).store.Told timed) :
    Sane timed (a.after setup request) := by
  have kept := sane.orderly.kept
  cases request with
  | create w => exact sane.edited spares (Store.createWorkflow_edits kept w).state told
  | createOfRecord datum => exact sane.edited spares (Store.createOfRecord_edits kept datum).state told
  | createFromTemplate id name => exact sane.edited spares (Store.createFromTemplate_edits kept id name).state told
  | edit id changes => exact sane.edited spares (Store.editWorkflow_edits kept id changes).state told
  | take document name id => exact sane.edited spares (Store.importWorkflow_edits kept document name id).state told
  | enable id => exact sane.edited spares (Store.enableWorkflow_edits kept id).state told
  | disable id => exact sane.edited spares (Store.disableWorkflow_edits kept id).state told
  | remove id => exact sane.edited spares (Store.removeWorkflow_edits kept id).state told
  | run id vars => exact (run_sane spares sane sound id vars).state
  | emit event payload => exact (emit_sane spares sane sound event payload).state
  | tick time context => exact (tick_sane spares sane sound steady time context).state
  | cancel id => exact (cancel_sane spares sane id).state
  | submit id => exact (submitStored_sane spares sane id).state
  | drain =>
    have drained : (drain setup).Ensures a (fun _ => Sane timed) fun _ _ => False :=
      Act.ensures_bind.mpr (Act.ensures_ask.mpr (carryOutEach_sane spares sane rfl))
    exact (drained.mono (fun _ _ sane => sane) fun _ _ none => none.elim).state
  | clock time =>
    have kept' : { a.store with now := time }.InMemory := ⟨kept.kind, kept.runs, kept.definitions⟩
    exact sane.edited spares (.of_reruns ⟨kept', rfl, rfl, le_refl _⟩) told

end Requests

/-- At every point of a session, what is stored of runs can be read. -/
theorem Session.sane (session : Session setup past a) (spares : ∀ id, (surroundings setup).Spares id)
    (told : timed → ∀ b ∈ a :: past, b.store.Aware) : Sane timed a := by
  induction session with
  | opened now drawn agent =>
    have opened : Session setup [] _ := .opened now drawn agent
    refine ⟨opened.steady.orderly, opened.honest spares, fun clock => told clock _ List.mem_cons_self, ?_⟩
    intro id e stored
    cases stored
  | @asked past a session request ih =>
    have sane := ih fun clock b mem => told clock b (List.mem_cons_of_mem _ mem)
    have sound : ∀ w, Offered a.store w → w.graph.Valid := fun w offered =>
      Graph.valid_of_defects (session.sound a List.mem_cons_self w.id w offered.1 offered.2)
    exact sane_after spares sane sound session.steady request fun clock => told clock _ List.mem_cons_self

end Automation

end TriggerFlow
