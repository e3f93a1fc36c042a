import TriggerFlow.Proofs.Automation.Motion

/-!
# Calls about one definition at the same time

A call about a definition makes a few calls of the store, one after the other, and other calls may come in between.
There is a lock for writing: an edit has it from where it reads the definition to where it saves it, and a launch from
where it reads a count to where it has counted. To enable, to disable and to remove a definition is done without it.
Without interruption the steps of a call are what the call does as a whole.
-/

namespace TriggerFlow

/-- What a change makes of the stored definition is all that matters of it. -/
theorem Store.updateWorkflow_congr {s : Store} (kept : s.InMemory) {id : String} {change change' : Workflow → Workflow}
    (same : ∀ w, s.definitions.get? id = some w → change w = change' w) :
    updateWorkflow id change s = updateWorkflow id change' s := by
  obtain ⟨m, kind⟩ := kept.kind
  have definitions : s.definitions = m.workflows := by simp [Store.definitions, kind]
  have there : m.updateWorkflow? id change = m.updateWorkflow? id change' := by
    unfold MemoryStore.updateWorkflow?
    cases found : m.workflows.get? id with
    | none => rfl
    | some w => rw [Option.map_some, Option.map_some, same w (definitions ▸ found)]
  have asked : Act.ask Store.keeping s = (.ok (.memory m), s) := by rw [← kind]; rfl
  rw [updateWorkflow, updateWorkflow, Act.bind_run_ok asked, Act.bind_run_ok asked]
  dsimp only
  rw [there]

namespace Concurrent

/-- A call about the definition with an identifier. A launch is that of a copy which has been read before. -/
inductive Call (id : String) where
  | edit (changes : Members)
  | enable
  | disable
  | remove
  | launch (w : Workflow) (own : w.id = id) (kind : TriggerKind) (payload : Members)

/-- How far a call has come. -/
inductive Stage where
  | begins
  /-- The definition has been read. -/
  | read (w : Workflow)
  /-- A run has been stored that was launched at a time. -/
  | stored (time : Instant)
  /-- The counts have been read that the launch of a run is to be added to. -/
  | counting (time : Instant) (w : Workflow)
  | returned
  | raised (failure : Failure)

/-- Whether there is a step left. -/
def Stage.Pending : Stage → Prop
  | .returned | .raised _ => False
  | _ => True

/-- The time at which the call is made, if it returns now: for a launch, that is when it began. -/
def Stage.time (now : Instant) : Stage → Instant
  | .stored time | .counting time _ => time
  | _ => now

namespace Call

variable {id : String}

/-- What a call does if nothing comes in between. -/
def whole : Call id → Act Store Unit
  | .edit changes => (fun _ => ()) <$> Store.editWorkflow id changes
  | .enable => (fun _ => ()) <$> Store.enableWorkflow id
  | .disable => (fun _ => ()) <$> Store.disableWorkflow id
  | .remove => Store.removeWorkflow id
  | .launch w _ kind payload => (fun _ => ()) <$> Store.createRun w kind payload

/-- The step that a call makes next: one call of the store, with what is worked out before and after it. -/
def advance : Call id → Stage → Act Store Stage
  | .edit changes, .begins =>
    match Edit.unknown changes with
    | [] => .read <$> Store.theWorkflow id
    | fields => Act.fail (.notEditable fields)
  | .edit changes, .read w => do
    let now ← Act.ask Store.now
    match Edit.ofRecord changes with
    | .issues found => Act.fail (.record found)
    | .value made => do
      let candidate := made.apply now w
      Store.requireSoundIfEnabled candidate
      Store.saveWorkflow candidate
      pure .returned
  | .enable, .begins => do
    let w ← Store.theWorkflow id
    Launcher.requireSound w.graph
    pure (.read w)
  | .enable, .read _ => (fun _ => .returned) <$> Store.updateWorkflow id fun stored => { stored with enabled := true }
  | .disable, .begins => .read <$> Store.theWorkflow id
  | .disable, .read _ => (fun _ => .returned) <$> Store.updateWorkflow id fun stored => { stored with enabled := false }
  | .remove, .begins => (fun _ => .returned) <$> Store.removeWorkflow id
  | .launch w _ kind payload, .begins => do
    let fresh ← Store.draw
    Store.saveExecution (.launched fresh w kind payload)
    pure (.stored fresh.now)
  | .launch _ _ _ _, .stored time => do
    match (← Store.workflow? id) with
    | none => pure .returned
    | some w => pure (.counting time w)
  | .launch _ _ _ _, .counting time w => (fun _ => .returned) <$> Store.updateWorkflow id fun stored =>
    { stored with executionCount := w.executionCount + 1, lastExecutedAt := some time }
  | _, stage => pure stage

/-- The lock for writing is held from this stage to the next. -/
def Holds : Call id → Stage → Prop
  | .edit _, .read _ => True
  | .launch _ _ _ _, .counting _ _ => True
  | _, _ => False

/-- The next step is made with the lock for writing. -/
def Locks : Call id → Stage → Prop
  | .edit changes, .begins => Edit.unknown changes = []
  | .edit _, .read _ => True
  | .launch _ _ _ _, .stored _ => True
  | .launch _ _ _ _, .counting _ _ => True
  | _, _ => False

/-- A call comes to this stage. -/
def Fits : Call id → Stage → Prop
  | .edit changes, .read w => Edit.unknown changes = [] ∧ w.id = id
  | .enable, .read _ => True
  | .disable, .read _ => True
  | .launch _ _ _ _, .stored _ => True
  | .launch _ _ _ _, .counting _ _ => True
  | _, .begins => True
  | _, .returned => True
  | _, .raised _ => True
  | _, _ => False

/-- The steps of a call without interruption. -/
def alone (call : Call id) : Act Store Unit :=
  (fun _ => ()) <$> (call.advance .begins >>= call.advance >>= call.advance)

theorem alone_edit (changes : Members) : (edit changes : Call id).alone = (edit changes : Call id).whole := by
  cases known : Edit.unknown changes with
  | nil =>
    have reads : (edit changes : Call id).advance .begins = .read <$> Store.theWorkflow id := by
      rw [advance, known]
    have edits : Store.editWorkflow id changes = Store.reviseWorkflow id (Edit.ofRecord changes) := by
      rw [Store.editWorkflow, known]
    rw [alone, reads, whole, edits]
    simp only [Store.reviseWorkflow, map_eq_pure_bind, bind_assoc, pure_bind]
    refine bind_congr fun w => ?_
    rw [advance]
    simp only [bind_assoc]
    refine bind_congr fun now => ?_
    cases Edit.ofRecord changes with
    | issues => rfl
    | value => simp only [bind_assoc, pure_bind, advance]
  | cons =>
    have fails : (edit changes : Call id).advance .begins = Act.fail (.notEditable (Edit.unknown changes)) := by
      rw [advance, known]
    have edits : Store.editWorkflow id changes = Act.fail (.notEditable (Edit.unknown changes)) := by
      rw [Store.editWorkflow, known]
    rw [alone, fails, whole, edits]
    rfl

/-- The count that has been read is the stored one, if nothing comes in between. -/
theorem counts_alone {s : Store} (kept : s.InMemory) (w : Workflow) (own : w.id = id) (kind : TriggerKind)
    (payload : Members) (time : Instant) :
    ((launch w own kind payload).advance (.stored time) >>= (launch w own kind payload).advance) s =
      ((fun _ => Stage.returned) <$> Store.countLaunch id time) s := by
  have looks : Store.workflow? id s = (.ok (s.definitions.get? id), s) := by
    have spec := Store.workflow?_spec kept id
    rcases run : Store.workflow? id s with ⟨_ | found, s'⟩
    · exact (spec.of_error run).elim
    · obtain ⟨rfl, rfl⟩ := spec.of_ok run
      rfl
  rw [advance, bind_assoc, Act.bind_run_ok looks, Store.countLaunch, Store.touchWorkflow, map_eq_pure_bind, bind_assoc,
    Act.bind_run_ok looks]
  cases found : s.definitions.get? id with
  | none => rfl
  | some v =>
    simp only [pure_bind, advance, map_eq_pure_bind, bind_assoc]
    refine Act.bind_congr_run (Store.updateWorkflow_congr kept fun stored same => ?_) _
    cases found.symm.trans same
    rfl

/-- The steps of a call without interruption come to what it does as a whole. -/
theorem alone_eq {s : Store} (kept : s.InMemory) (call : Call id) : call.alone s = call.whole s := by
  cases call with
  | edit changes => rw [alone_edit]
  | enable =>
    simp only [alone, advance, whole, Store.enableWorkflow, map_eq_pure_bind, bind_assoc, pure_bind]
  | disable =>
    simp only [alone, advance, whole, Store.disableWorkflow, map_eq_pure_bind, bind_assoc, pure_bind]
  | remove =>
    simp only [alone, advance, whole, map_eq_pure_bind, bind_assoc, pure_bind]
    exact congrFun (bind_pure _) s
  | launch w own kind payload =>
    have saves := Store.saveExecution_spec (s := { s with drawn := s.drawn + 1 })
      ⟨kept.kind, kept.runs, kept.definitions⟩ (.launched s.fresh w kind payload)
    have draws : Store.draw s = (.ok s.fresh, { s with drawn := s.drawn + 1 }) := rfl
    rcases run : Store.saveExecution (.launched s.fresh w kind payload) { s with drawn := s.drawn + 1 } with
      ⟨_ | done, s'⟩
    · exact (saves.of_error run).elim
    · have counts := counts_alone (saves.of_ok run).kept w own kind payload s.fresh.now
      have rest : (((launch w own kind payload).advance (.stored s.fresh.now) >>=
          (launch w own kind payload).advance) >>= fun _ => (pure () : Act Store Unit)) s' =
            (((fun _ => Stage.returned) <$> Store.countLaunch id s.fresh.now) >>= fun _ => pure ()) s' :=
        Act.bind_congr_run counts _
      simp only [alone, whole, Store.createRun, map_eq_pure_bind, bind_assoc, pure_bind, own] at rest ⊢
      rw [show (launch w own kind payload).advance .begins = (Store.draw >>= fun fresh =>
        Store.saveExecution (.launched fresh w kind payload) >>= fun _ => pure (.stored fresh.now)) from rfl]
      simp only [bind_assoc, pure_bind]
      rw [Act.bind_run_ok draws, Act.bind_run_ok draws, Act.bind_run_ok run, Act.bind_run_ok run]
      exact rest

/-- What a step does that succeeds, told by the stored definition before and after. -/
inductive Progress (now : Instant) : Call id → Stage → Option Workflow → Stage → Option Workflow → Prop
  | reads {changes : Members} {w : Workflow} (known : Edit.unknown changes = []) (own : w.id = id) :
    Progress now (.edit changes) .begins (some w) (.read w) (some w)
  | saves {changes : Members} {w w' : Workflow} {d : Option Workflow}
    (makes : Store.Makes (Edit.ofRecord changes) now w w') :
    Progress now (.edit changes) (.read w) d .returned (some w')
  | checks {w : Workflow} : Progress now .enable .begins (some w) (.read w) (some w)
  | enables {v w : Workflow} :
    Progress now .enable (.read v) (some w) .returned (some { w with enabled := true })
  | looks {w : Workflow} : Progress now .disable .begins (some w) (.read w) (some w)
  | disables {v w : Workflow} :
    Progress now .disable (.read v) (some w) .returned (some { w with enabled := false })
  | removes {w : Workflow} : Progress now .remove .begins (some w) .returned none
  | creates {w : Workflow} {own : w.id = id} {kind : TriggerKind} {payload : Members} {d : Option Workflow} :
    Progress now (.launch w own kind payload) .begins d (.stored now) d
  | misses {w : Workflow} {own : w.id = id} {kind : TriggerKind} {payload : Members} {time : Instant} :
    Progress now (.launch w own kind payload) (.stored time) none .returned none
  | finds {w v : Workflow} {own : w.id = id} {kind : TriggerKind} {payload : Members} {time : Instant} :
    Progress now (.launch w own kind payload) (.stored time) (some v) (.counting time v) (some v)
  | counts {w v v' : Workflow} {own : w.id = id} {kind : TriggerKind} {payload : Members} {time : Instant} :
    Progress now (.launch w own kind payload) (.counting time v) (some v') .returned
      (some { v' with executionCount := v.executionCount + 1, lastExecutedAt := some time })

/-- The stored definition has not been touched. -/
def Untouched (id : String) (s s' : Store) : Prop := s'.InMemory ∧ s'.definitions.get? id = s.definitions.get? id

/-- A call makes some progress with its next step, which leaves the definition alone if it fails. -/
def Advances (call : Call id) (stage : Stage) (s : Store) : Prop :=
  (call.advance stage).Ensures s
    (fun next s' => s'.InMemory ∧ call.Progress s.now stage (s.definitions.get? id) next (s'.definitions.get? id))
    fun _ => Untouched id s

section Advances

variable {s : Store} (kept : s.InMemory) {call : Call id} {stage : Stage}
include kept

theorem Untouched.of_eq {s' : Store} (same : s' = s) : Untouched id s s' := by
  rw [same]
  exact ⟨kept, rfl⟩

/-- A step that only looks at the definition. -/
theorem Progress.of_look {s' : Store} {next : Stage} {d : Option Workflow} (same : s' = s)
    (known : s.definitions.get? id = d) (progress : call.Progress s.now stage d next d) :
    s'.InMemory ∧ call.Progress s.now stage (s.definitions.get? id) next (s'.definitions.get? id) := by
  rw [same, known]
  exact ⟨kept, progress⟩

/-- A step that changes the stored definition, whatever has been read before. -/
theorem Advances.of_update {change : Workflow → Workflow}
    (updates : call.advance stage = (fun _ => .returned) <$> Store.updateWorkflow id change)
    (own : ∀ w, (change w).id = w.id)
    (progress : ∀ w, call.Progress s.now stage (some w) .returned (some (change w))) : call.Advances stage s := by
  rw [Advances, updates]
  refine Act.ensures_map.mpr ((Store.updateWorkflow_spec kept id change own).mono ?_
    fun _ _ failed => .of_eq kept failed.2.2)
  rintro _ s' ⟨old, present, -, redefines⟩
  refine ⟨redefines.kept, ?_⟩
  rw [present, redefines.definitions, Ordered.get?_set_self]
  exact progress old

theorem edit_reads (changes : Members) : (edit changes : Call id).Advances .begins s := by
  unfold Advances advance
  dsimp only
  split
  · rename_i known
    refine Act.ensures_map.mpr ((Store.theWorkflow_spec kept id).mono ?_ fun _ _ failed => .of_eq kept failed.1)
    rintro w s' ⟨same, stored⟩
    exact Progress.of_look kept same stored (.reads known (kept.definitions.label_eq stored))
  · exact .of_eq kept rfl

theorem edit_saves (changes : Members) {w : Workflow} (own : w.id = id) :
    (edit changes : Call id).Advances (.read w) s := by
  subst own
  refine Act.ensures_bind.mpr (Act.ensures_ask.mpr ?_)
  cases read : Edit.ofRecord changes with
  | issues => exact .of_eq kept rfl
  | value made =>
    refine Act.ensures_bind.mpr ((Store.requireSoundIfEnabled_spec _).mono ?_
      fun _ _ failed => .of_eq kept failed.1)
    rintro - s' ⟨same, sound⟩
    rw [same]
    refine Act.ensures_bind.mpr ((Store.saveWorkflow_spec kept _).mono ?_ fun _ _ none => none.elim)
    intro _ s' redefines
    refine ⟨redefines.kept, ?_⟩
    have saved : s'.definitions.get? w.id = some (made.apply s.now w) := by
      rw [redefines.definitions]
      exact Ordered.get?_set_self ..
    rw [saved]
    exact .saves ⟨made, read, rfl, sound⟩

theorem enable_checks : (enable : Call id).Advances .begins s := by
  refine Act.ensures_bind.mpr ((Store.theWorkflow_spec kept id).mono ?_ fun _ _ failed => .of_eq kept failed.1)
  rintro w s' ⟨same, stored⟩
  rw [same]
  refine Act.ensures_bind.mpr ((Store.requireSound_spec w.graph).mono ?_ fun _ _ failed => .of_eq kept failed.1)
  rintro - s' ⟨same, -⟩
  exact Progress.of_look kept same stored .checks

theorem disable_looks : (disable : Call id).Advances .begins s := by
  refine Act.ensures_map.mpr ((Store.theWorkflow_spec kept id).mono ?_ fun _ _ failed => .of_eq kept failed.1)
  rintro w s' ⟨same, stored⟩
  exact Progress.of_look kept same stored .looks

theorem remove_removes : (remove : Call id).Advances .begins s := by
  refine Act.ensures_map.mpr ((Store.removeWorkflow_spec kept id).mono ?_ ?_)
  · rintro _ s' ⟨there, redefines⟩
    obtain ⟨w, stored⟩ := Option.ne_none_iff_exists'.mp there
    refine ⟨redefines.kept, ?_⟩
    rw [stored, redefines.definitions, Ordered.get?_erase, Function.update_self]
    exact .removes
  · rintro _ s' ⟨missing, redefines⟩
    refine ⟨redefines.kept, ?_⟩
    rw [missing, redefines.definitions, Ordered.get?_erase, Function.update_self]

section Launch

variable (w : Workflow) (own : w.id = id) (kind : TriggerKind) (payload : Members)

theorem launch_creates : (launch w own kind payload).Advances .begins s := by
  refine Act.ensures_bind.mpr ((Store.draw_spec kept).mono ?_ fun _ _ none => none.elim)
  rintro fresh s₁ ⟨rfl, -, drew⟩
  refine Act.ensures_bind.mpr ((Store.saveExecution_spec drew.kept _).mono ?_ fun _ _ none => none.elim)
  intro _ s' saved
  refine ⟨saved.kept, ?_⟩
  rw [saved.definitions, drew.definitions]
  exact .creates

theorem launch_finds (time : Instant) : (launch w own kind payload).Advances (.stored time) s := by
  refine Act.ensures_bind.mpr ((Store.workflow?_spec kept id).mono ?_ fun _ _ none => none.elim)
  rintro (_ | v) s' ⟨stored, same⟩
  · exact Progress.of_look kept same stored.symm .misses
  · exact Progress.of_look kept same stored.symm .finds

end Launch

theorem advances (call : Call id) (pending : stage.Pending) (fits : call.Fits stage) : call.Advances stage s := by
  cases stage with
  | begins =>
    cases call with
    | edit changes => exact edit_reads kept changes
    | enable => exact enable_checks kept
    | disable => exact disable_looks kept
    | remove => exact remove_removes kept
    | launch w own kind payload => exact launch_creates kept w own kind payload
  | read w =>
    cases call with
    | edit changes => exact edit_saves kept changes fits.2
    | enable => exact .of_update kept rfl (fun _ => rfl) fun _ => .enables
    | disable => exact .of_update kept rfl (fun _ => rfl) fun _ => .disables
    | remove | launch => exact fits.elim
  | stored time =>
    cases call with
    | launch w own kind payload => exact launch_finds kept w own kind payload time
    | _ => exact fits.elim
  | counting time v =>
    cases call with
    | launch => exact .of_update kept rfl (fun _ => rfl) fun _ => .counts
    | _ => exact fits.elim
  | returned | raised => exact pending.elim

end Advances

/-- A call that has come to its end has no lock. -/
theorem settled (call : Call id) (stage : Stage) (settled : ¬ stage.Pending) :
    call.Fits stage ∧ ¬ call.Holds stage := by
  cases stage with
  | returned | raised => cases call <;> exact ⟨trivial, nofun⟩
  | begins | read | stored | counting => exact absurd trivial settled

/-- The count is read by launches, which hold the lock then. -/
theorem holds_of_fits {call : Call id} {time : Instant} {w : Workflow} (fits : call.Fits (.counting time w)) :
    call.Holds (.counting time w) := by
  cases call with
  | launch => trivial
  | _ => exact fits

namespace Progress

variable {call : Call id} {now : Instant} {stage next : Stage} {d d' : Option Workflow}

theorem fits (progress : call.Progress now stage d next d') : call.Fits next := by
  cases progress with
  | reads known own => exact ⟨known, own⟩
  | _ => trivial

/-- As long as a call has not returned, it has left the definition alone. -/
theorem eq_of_not_returned (progress : call.Progress now stage d next d') (more : next ≠ .returned) : d' = d := by
  cases progress <;> first | rfl | exact absurd rfl more

/-- The lock has been taken before it is held. -/
theorem locks (progress : call.Progress now stage d next d') (holds : call.Holds next) : call.Locks stage := by
  cases progress with
  | reads known own => exact known
  | _ => trivial

/-- What has just been read is stored. -/
theorem looked (progress : call.Progress now stage d next d') {v : Workflow}
    (read : next = .read v ∨ ∃ time, next = .counting time v) : d = some v := by
  cases progress with
  | reads | checks | looks =>
    rcases read with same | ⟨_, none⟩
    · cases same
      rfl
    · cases none
  | finds =>
    rcases read with none | ⟨_, same⟩
    · cases none
    · cases same
      rfl
  | _ => simp at read

/-- What is done without the lock leaves the count of launches alone. -/
theorem count_eq (progress : call.Progress now stage d next d') (unlocked : ¬ call.Locks stage) {w' : Workflow}
    (stored : d' = some w') : ∃ w, d = some w ∧ w'.executionCount = w.executionCount := by
  cases progress with
  | saves | misses | finds | counts => exact absurd trivial unlocked
  | removes => cases stored
  | enables | disables =>
    cases stored
    exact ⟨_, rfl, rfl⟩
  | reads | checks | looks | creates => exact ⟨w', stored, rfl⟩

end Progress

end Call

/-- The stored definition and the calls about it: how far they have come, and those that have returned, in order, with
the times at which they have been made. -/
structure State (ι : Type) where
  store : Store
  stage : ι → Stage
  answered : List (ι × Instant)

section Steps

variable {ι : Type} {id : String}

/-- What the next step of a call relies on in what is stored. -/
abbrev Rule (id : String) := Call id → Stage → Option Workflow → Prop

/-- It is the turn of a call that has a step left. If the step is made with the lock, then nobody else has it. -/
structure Turn (rule : Rule id) (call : ι → Call id) (a : State ι) (i : ι) : Prop where
  pending : (a.stage i).Pending
  free : (call i).Locks (a.stage i) → ∀ j, (call j).Holds (a.stage j) → j = i
  obeys : rule (call i) (a.stage i) (a.store.definitions.get? id)

variable [DecidableEq ι]

/-- One of the calls makes its next step, at some time. -/
inductive Step (rule : Rule id) (call : ι → Call id) : State ι → State ι → Prop
  | goes {a : State ι} {i : ι} {now : Instant} {next : Stage} {s : Store} (turn : Turn rule call a i)
    (run : (call i).advance (a.stage i) { a.store with now := now } = (.ok next, s)) (more : next ≠ .returned) :
    Step rule call a ⟨s, Function.update a.stage i next, a.answered⟩
  | returns {a : State ι} {i : ι} {now : Instant} {s : Store} (turn : Turn rule call a i)
    (run : (call i).advance (a.stage i) { a.store with now := now } = (.ok .returned, s)) :
    Step rule call a ⟨s, Function.update a.stage i .returned, a.answered ++ [(i, (a.stage i).time now)]⟩
  | raises {a : State ι} {i : ι} {now : Instant} {failure : Failure} {s : Store} (turn : Turn rule call a i)
    (run : (call i).advance (a.stage i) { a.store with now := now } = (.error failure, s)) :
    Step rule call a ⟨s, Function.update a.stage i (.raised failure), a.answered⟩

/-- The calls make steps in any order. -/
def Interleaves (rule : Rule id) (call : ι → Call id) (s : Store) : State ι → Prop :=
  Relation.ReflTransGen (Step rule call) ⟨s, fun _ => .begins, []⟩

/-- What holds of the calls at any time: the definition is that of a store in memory, one call at most has the lock, and
the count that a launch is going to add to is the stored one. -/
structure Lawful (call : ι → Call id) (a : State ι) : Prop where
  kept : a.store.InMemory
  fits : ∀ i, (call i).Fits (a.stage i)
  alone : ∀ i j, (call i).Holds (a.stage i) → (call j).Holds (a.stage j) → j = i
  counting : ∀ i time v w, a.stage i = .counting time v → a.store.definitions.get? id = some w →
    w.executionCount = v.executionCount
  answered : ∀ i, a.stage i = .returned ↔ i ∈ a.answered.map Prod.fst
  once : (a.answered.map Prod.fst).Nodup

/-- A call has made a step, and has come to another stage. -/
structure Moved (rule : Rule id) (call : ι → Call id) (i : ι) (next : Stage) (a b : State ι) : Prop where
  turn : Turn rule call a i
  kept : b.store.InMemory
  fits : (call i).Fits next
  locks : (call i).Holds next → (call i).Locks (a.stage i)
  stage : b.stage = Function.update a.stage i next

/-- The definition is as it was, and no call has returned. -/
structure Stays (id : String) (next : Stage) (a b : State ι) : Prop where
  more : next ≠ .returned
  looked : ∀ v, (next = .read v ∨ ∃ time, next = .counting time v) → a.store.definitions.get? id = some v
  same : b.store.definitions.get? id = a.store.definitions.get? id
  answered : b.answered = a.answered

/-- A call has returned. -/
structure Returns (call : ι → Call id) (i : ι) (next : Stage) (a b : State ι) : Prop where
  next : next = .returned
  made : ∃ now, (call i).Progress now (a.stage i) (a.store.definitions.get? id) .returned
      (b.store.definitions.get? id) ∧ b.answered = a.answered ++ [(i, (a.stage i).time now)]

section Step

variable {rule : Rule id} {call : ι → Call id} {a b : State ι}

/-- A step that fails or has others to follow leaves the definition alone. -/
theorem Step.moved (step : Step rule call a b) (lawful : Lawful call a) :
    ∃ i next, Moved rule call i next a b ∧ (Stays id next a b ∨ Returns call i next a b) := by
  have spec {i : ι} (turn : Turn rule call a i) (now : Instant) := Call.advances (s := { a.store with now := now })
    ⟨lawful.kept.kind, lawful.kept.runs, lawful.kept.definitions⟩ (call i) turn.pending (lawful.fits i)
  cases step with
  | @goes i now next s turn run more =>
    obtain ⟨kept, progress⟩ := (spec turn now).of_ok run
    have same := progress.eq_of_not_returned more
    exact ⟨i, next, ⟨turn, kept, progress.fits, progress.locks, rfl⟩, .inl ⟨more, fun v => progress.looked, same, rfl⟩⟩
  | @returns i now s turn run =>
    obtain ⟨kept, progress⟩ := (spec turn now).of_ok run
    exact ⟨i, .returned, ⟨turn, kept, progress.fits, progress.locks, rfl⟩, .inr ⟨rfl, now, progress, rfl⟩⟩
  | @raises i now failure s turn run =>
    obtain ⟨kept, same⟩ := (spec turn now).of_error run
    obtain ⟨fits, unlocked⟩ := (call i).settled (.raised failure) nofun
    exact ⟨i, .raised failure, ⟨turn, kept, fits, fun holds => absurd holds unlocked, rfl⟩,
      .inl ⟨nofun, by simp, same, rfl⟩⟩

namespace Lawful

omit [DecidableEq ι] in
/-- A call whose turn it is has not returned. -/
theorem not_answered (lawful : Lawful call a) {i : ι} (turn : Turn rule call a i) : i ∉ a.answered.map Prod.fst := by
  intro mem
  have pending := turn.pending
  rw [(lawful.answered i).mpr mem] at pending
  exact pending

variable {i : ι} {next : Stage} (lawful : Lawful call a) (moved : Moved rule call i next a b)
include lawful moved

theorem fits_of_moved (j : ι) : (call j).Fits (b.stage j) := by
  rw [moved.stage]
  by_cases own : j = i
  · rw [own, Function.update_self]
    exact moved.fits
  · rw [Function.update_of_ne own]
    exact lawful.fits j

/-- A call that gets the lock is the only one to have it. -/
theorem alone_of_moved (j k : ι) (holds : (call j).Holds (b.stage j)) (holds' : (call k).Holds (b.stage k)) :
    k = j := by
  rw [moved.stage] at holds holds'
  by_cases own : j = i <;> by_cases own' : k = i
  · exact own'.trans own.symm
  · rw [own, Function.update_self] at holds
    rw [Function.update_of_ne own'] at holds'
    exact absurd (moved.turn.free (moved.locks holds) k holds') own'
  · rw [Function.update_of_ne own] at holds
    rw [own', Function.update_self] at holds'
    exact absurd (moved.turn.free (moved.locks holds') j holds) own
  · rw [Function.update_of_ne own] at holds
    rw [Function.update_of_ne own'] at holds'
    exact lawful.alone j k holds holds'

theorem of_stays (stays : Stays id next a b) : Lawful call b where
  kept := moved.kept
  fits := lawful.fits_of_moved moved
  alone := lawful.alone_of_moved moved
  counting j time v w counting stored := by
    rw [moved.stage] at counting
    rw [stays.same] at stored
    by_cases own : j = i
    · rw [own, Function.update_self] at counting
      cases (stays.looked v (.inr ⟨time, counting⟩)).symm.trans stored
      rfl
    · rw [Function.update_of_ne own] at counting
      exact lawful.counting j time v w counting stored
  answered j := by
    rw [moved.stage, stays.answered]
    by_cases own : j = i
    · subst own
      rw [Function.update_self]
      exact iff_of_false stays.more (lawful.not_answered moved.turn)
    · rw [Function.update_of_ne own]
      exact lawful.answered j
  once := stays.answered ▸ lawful.once

theorem of_returns (returns : Returns call i next a b) : Lawful call b := by
  obtain ⟨rfl, now, progress, answered⟩ := returns
  refine ⟨moved.kept, lawful.fits_of_moved moved, lawful.alone_of_moved moved, ?_, ?_, ?_⟩
  · intro j time v w counting stored
    rw [moved.stage] at counting
    by_cases own : j = i
    · rw [own, Function.update_self] at counting
      cases counting
    · rw [Function.update_of_ne own] at counting
      -- A launch that is about to count has the lock, and so this step is made without it.
      have holds := Call.holds_of_fits (counting ▸ lawful.fits j)
      obtain ⟨w₀, before, same⟩ := progress.count_eq
        (fun locks => own (moved.turn.free locks j (counting ▸ holds))) stored
      exact same.trans (lawful.counting j time v w₀ counting before)
  · intro j
    rw [moved.stage, answered, List.map_append, List.mem_append]
    by_cases own : j = i
    · subst own
      simp
    · rw [Function.update_of_ne own, lawful.answered j]
      simp [own]
  · rw [answered, List.map_append]
    refine List.nodup_append.mpr ⟨lawful.once, List.nodup_singleton _, ?_⟩
    intro j mem _ new same
    have own : j = i := same.trans (List.mem_singleton.mp new)
    exact lawful.not_answered moved.turn (own ▸ mem)

end Lawful

theorem Step.lawful (step : Step rule call a b) (lawful : Lawful call a) : Lawful call b := by
  obtain ⟨i, next, moved, stays | returns⟩ := step.moved lawful
  · exact lawful.of_stays moved stays
  · exact lawful.of_returns moved returns

theorem Interleaves.lawful {s : Store} (kept : s.InMemory) (interleaves : Interleaves rule call s a) :
    Lawful call a := by
  induction interleaves with
  | refl =>
    have begins (j : ι) : (call j).Fits .begins ∧ ¬ (call j).Holds .begins := by
      cases call j <;> exact ⟨trivial, nofun⟩
    refine ⟨kept, fun j => (begins j).1, fun j _ holds => absurd holds (begins j).2, ?_, by simp, .nil⟩
    intro i time v w counting
    cases counting
  | tail earlier step ih => exact step.lawful ih

end Step

end Steps

end Concurrent

end TriggerFlow
