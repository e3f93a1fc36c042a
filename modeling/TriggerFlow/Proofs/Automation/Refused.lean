import TriggerFlow.Proofs.Automation.Delivery

/-!
# What is refused leaves no trace

Requests look before they act. One that is refused has changed nothing, neither workflows nor runs, neither what
triggers remember nor what waits or is driven or is to be cancelled; at most it has drawn an identifier that nothing
will have. For definitions that is so over any store, in memory or in files. Only a tick may fail after it has begun to act.
-/

namespace TriggerFlow

theorem Ordered.erase_of_missing {α : Type} {m : Ordered α} {key : String} (missing : m.get? key = none) :
    m.erase key = m := by
  induction m with
  | nil => rfl
  | cons pair rest ih =>
    obtain ⟨k, v⟩ := pair
    have other : k ≠ key := by
      rintro rfl
      simp [get?] at missing
    rw [get?, if_neg other] at missing
    have others : erase rest key = rest := ih missing
    have same : erase ((k, v) :: rest) key = (k, v) :: erase rest key := by simp [erase, other]
    rw [same, others]

namespace Store

variable {α β : Type} {s s' s'' : Store}

/-- Nothing has changed, except that identifiers may have been drawn. -/
def Spent (s s' : Store) : Prop := ∃ n, s' = { s with drawn := n }

theorem Spent.refl (s : Store) : Spent s s := ⟨s.drawn, rfl⟩

theorem Spent.drawing (spent : Spent s s') (n : Nat) : Spent s { s' with drawn := n } := by
  obtain ⟨m, rfl⟩ := spent
  exact ⟨n, rfl⟩

theorem Spent.trans (spent : Spent s s') (later : Spent s' s'') : Spent s s'' := by
  obtain ⟨n, rfl⟩ := later
  exact spent.drawing n

/-- A computation that draws identifiers at most. -/
def Looks (x : Act Store α) : Prop := ∀ s, x.Preserves (Spent s)

/-- A computation that fails, if it does, before it has done anything. -/
def Cautious (x : Act Store α) : Prop := ∀ s, x.Ensures s (fun _ _ => True) fun _ => Spent s

/-- A computation that does not fail. -/
def Sure (x : Act Store α) : Prop := ∀ s, x.Ensures s (fun _ _ => True) fun _ _ => False

namespace Cautious

variable {x : Act Store α} {f : α → Act Store β}

theorem of_sure (sure : Sure x) : Cautious x := fun s =>
  (sure s).mono (fun _ _ _ => trivial) fun _ _ none => none.elim

theorem of_looks (looks : Looks x) : Cautious x := fun s =>
  ((looks s).ensures (.refl s)).mono (fun _ _ _ => trivial) fun _ _ spent => spent

/-- One looks first, and then goes on with caution. -/
theorem after (looks : Looks x) (rest : ∀ a, Cautious (f a)) : Cautious (x >>= f) := by
  intro s
  refine Act.ensures_bind.mpr (((looks s).ensures (.refl s)).mono ?_ fun _ _ spent => spent)
  intro a s' spent
  exact (rest a s').mono (fun _ _ _ => trivial) fun _ _ later => spent.trans later

/-- What is sure to succeed may follow what has been done. -/
theorem followed (cautious : Cautious x) (sure : ∀ a, Sure (f a)) : Cautious (x >>= f) := by
  intro s
  refine Act.ensures_bind.mpr ((cautious s).mono ?_ fun _ _ spent => spent)
  intro a s' _
  exact (sure a s').mono (fun _ _ _ => trivial) fun _ _ none => none.elim

end Cautious

section Looks

theorem workflow?_looks (id : String) : Looks (workflow? id) := fun _ =>
  .bind (.ask _) fun keeping => match keeping with
    | .memory _ => .pure _
    | .files shelf => .bind (loadWorkflows_preserves Spent.drawing shelf) fun _ => .pure _

theorem theWorkflow_looks (id : String) : Looks (theWorkflow id) := fun s =>
  .bind (workflow?_looks id s) fun found => match found with
    | some _ => .pure _
    | none => .fail _

theorem requireSound_looks (g : Graph) : Looks (Launcher.requireSound g) := fun _ =>
  .bind (.lift _ _) fun found => match found with
    | [] => .pure _
    | _ :: _ => .fail _

theorem requireSoundIfEnabled_looks (w : Workflow) : Looks (requireSoundIfEnabled w) := by
  intro s
  unfold requireSoundIfEnabled
  split
  · exact requireSound_looks w.graph s
  · exact .pure _

theorem draw_looks : Looks draw := fun _ _ spent => spent.drawing _

theorem require_looks (read : Fresh → Json → Reading α) (datum : Json) : Looks (require read datum) := fun _ =>
  .bind (readRecord_preserves Spent.drawing read datum) fun reading => match reading with
    | .value _ => .pure _
    | .issues _ => .fail _

end Looks

section Writes

theorem saveWorkflow_cautious (w : Workflow) : Cautious (saveWorkflow w) := by
  refine .after (fun _ => .ask _) fun keeping => ?_
  cases keeping with
  | memory m => exact .of_sure fun _ => trivial
  | files shelf =>
    exact .after (fun _ => loadWorkflows_preserves Spent.drawing shelf) fun _ => .of_sure fun _ => trivial

theorem updateWorkflow_cautious (id : String) (change : Workflow → Workflow) : Cautious (updateWorkflow id change) := by
  refine .after (fun _ => .ask _) fun keeping => ?_
  cases keeping with
  | memory m =>
    cases updated : m.updateWorkflow? id change with
    | none => simpa [updated] using .of_looks fun _ => .fail _
    | some changed => simpa [updated] using .of_sure fun _ => trivial
  | files shelf =>
    refine .after (fun _ => loadWorkflows_preserves Spent.drawing shelf) fun loaded => ?_
    cases found : loaded.1.find? fun w => w.id = id with
    | none => simpa [found] using .of_looks fun _ => .fail _
    | some w => simpa [found] using .of_sure fun _ => trivial

/-- To delete what is not there changes nothing. -/
theorem deleteWorkflow_spent (id : String) (s : Store) : (deleteWorkflow id).Ensures s
    (fun found s' => found = false → Spent s s') fun _ => Spent s := by
  refine Act.ensures_bind.mpr (Act.ensures_ask.mpr ?_)
  cases kind : s.keeping with
  | memory m =>
    intro missing
    have none : m.workflows.get? id = none := by
      rwa [Ordered.has, Option.isSome_eq_false_iff, Option.isNone_iff_eq_none] at missing
    refine ⟨s.drawn, ?_⟩
    rw [MemoryStore.deleteWorkflow, Ordered.erase_of_missing none, ← kind]
  | files shelf =>
    refine Act.ensures_bind.mpr (((loadWorkflows_preserves Spent.drawing shelf).ensures (.refl s)).mono ?_
      fun _ _ spent => spent)
    intro loaded s' spent
    dsimp only
    split
    · exact fun _ => spent
    · intro found
      cases found

end Writes

theorem createWorkflow_cautious (w : Workflow) : Cautious (createWorkflow w) := by
  refine .after (requireSoundIfEnabled_looks w) fun _ => .after (fun _ => .ask _) fun now => ?_
  exact .followed (saveWorkflow_cautious _) fun _ _ => trivial

theorem createOfRecord_cautious (datum : Json) : Cautious (createOfRecord datum) :=
  .after (require_looks Workflow.ofRecord datum) createWorkflow_cautious

theorem reviseWorkflow_cautious (id : String) (edit : Reading Edit) : Cautious (reviseWorkflow id edit) := by
  refine .after (theWorkflow_looks id) fun w => .after (fun _ => .ask _) fun now => ?_
  cases edit with
  | issues found => exact .of_looks fun _ => .fail _
  | value edit =>
    refine .after (requireSoundIfEnabled_looks _) fun _ => ?_
    exact .followed (saveWorkflow_cautious _) fun _ _ => trivial

theorem editWorkflow_cautious (id : String) (changes : Members) : Cautious (editWorkflow id changes) := by
  unfold editWorkflow
  split
  · exact reviseWorkflow_cautious id _
  · exact .of_looks fun _ => .fail _

theorem removeWorkflow_cautious (id : String) : Cautious (removeWorkflow id) := by
  intro s
  refine Act.ensures_bind.mpr ((deleteWorkflow_spent id s).mono ?_ fun _ _ spent => spent)
  intro found s' spent
  cases found with
  | true => trivial
  | false => exact spent rfl

theorem enableWorkflow_cautious (id : String) : Cautious (enableWorkflow id) :=
  .after (theWorkflow_looks id) fun w => .after (requireSound_looks w.graph) fun _ => updateWorkflow_cautious id _

theorem disableWorkflow_cautious (id : String) : Cautious (disableWorkflow id) :=
  .after (theWorkflow_looks id) fun _ => updateWorkflow_cautious id _

theorem importWorkflow_cautious (document : Json) (name id : Option String) :
    Cautious (importWorkflow document name id) := by
  refine .after (fun _ => .lift _ _) fun g => ?_
  cases id with
  | some id => exact reviseWorkflow_cautious id _
  | none => exact .after draw_looks fun _ => createWorkflow_cautious _

theorem createFromTemplate_cautious (id : String) (name : Option String) :
    Cautious (createFromTemplate id name) :=
  .after (fun _ => .lift _ _) fun _ => .after draw_looks fun _ => createWorkflow_cautious _

end Store

namespace Automation

variable {δ α : Type} {setup : Setup δ} {a b : Automation δ} {past : List (Automation δ)}

/-- Nothing in the system has changed, except that identifiers may have been drawn. -/
def Unmarked (a b : Automation δ) : Prop := ∃ n, b = a.withStore { a.store with drawn := n }

theorem Unmarked.refl (a : Automation δ) : Unmarked a a := ⟨a.store.drawn, rfl⟩

/-- A computation that leaves no trace of itself if it fails. -/
def Traceless (x : Act (Automation δ) α) (a : Automation δ) : Prop :=
  x.Ensures a (fun _ _ => True) fun _ => Unmarked a

namespace Traceless

variable {x : Act (Automation δ) α}

theorem unanswered (traceless : Traceless x a) : Traceless ((fun _ => ()) <$> x) a := Act.ensures_map.mpr traceless

theorem of_sure (sure : x.Ensures a (fun _ _ => True) fun _ _ => False) : Traceless x a :=
  sure.mono (fun _ _ _ => trivial) fun _ _ none => none.elim

theorem of_same (same : x.Ensures a (fun _ _ => True) fun _ b => b = a) : Traceless x a :=
  same.mono (fun _ _ _ => trivial) fun _ _ same => same ▸ .refl a

end Traceless

/-- A request on definitions that is refused leaves no trace, over any store. -/
theorem inStore_refused {x : Act Store α} (cautious : Store.Cautious x) (a : Automation δ) :
    Traceless (inStore x) a := by
  refine ensures_inStore.mpr ((cautious a.store).mono (fun _ _ _ => trivial) ?_)
  rintro _ s ⟨n, rfl⟩
  exact ⟨n, rfl⟩

section Sure

variable (setup)

theorem carryOut_sure (errand : Errand) (a : Automation δ) :
    (carryOut setup errand).Ensures a (fun _ _ => True) fun _ _ => False := by
  refine Act.ensures_recover.mpr ((Act.Ensures.run _ a).mono (fun _ _ _ => trivial) fun _ _ _ => ?_)
  exact trivial

/-- Errands are carried out whatever comes of them. -/
theorem carryOutEach_sure : ∀ (queue : List Errand) (a : Automation δ),
    (carryOutEach setup queue).Ensures a (fun _ _ => True) fun _ _ => False
  | [], _ => trivial
  | errand :: rest, a => by
    refine Act.ensures_bind.mpr ((carryOut_sure setup errand a).mono ?_ fun _ _ none => none)
    exact fun _ b _ => Act.ensures_bind.mpr (Act.ensures_modify.mpr (carryOutEach_sure rest _))

theorem submit_sure (errand : Errand) (a : Automation δ) :
    (submit setup errand).Ensures a (fun _ _ => True) fun _ _ => False := by
  refine Act.ensures_bind.mpr (Act.ensures_ask.mpr ?_)
  cases inFlight errand.runId a with
  | true => trivial
  | false =>
    refine Act.ensures_bind.mpr (Act.ensures_modify.mpr ?_)
    cases setup.eager with
    | false => trivial
    | true => exact Act.ensures_bind.mpr (Act.ensures_ask.mpr (carryOutEach_sure setup _ _))

theorem drain_sure (a : Automation δ) : (drain setup).Ensures a (fun _ _ => True) fun _ _ => False :=
  Act.ensures_bind.mpr (Act.ensures_ask.mpr (carryOutEach_sure setup _ a))

end Sure

theorem launch_sure (kept : a.store.InMemory) (w : Workflow) (kind : TriggerKind) (payload : Members) :
    (launch setup w kind payload).Ensures a (fun _ _ => True) fun _ _ => False := by
  refine Act.ensures_bind.mpr (ensures_inStore.mpr ((Store.createRun_spec kept w kind payload).mono ?_
    fun _ _ none => none))
  intro e s _
  exact Act.ensures_bind.mpr ((submit_sure setup (.start e) _).mono (fun _ _ _ => trivial) fun _ _ none => none)

/-- Who may not be run is not run, and nothing else is done. -/
theorem run_refused (kept : a.store.InMemory) (id : String) (vars : Members) :
    Traceless (run setup id vars) a := by
  refine .of_same ?_
  refine Act.ensures_bind.mpr (ensures_inStore.mpr ((Store.workflow?_spec kept id).mono ?_ fun _ _ none => none.elim))
  rintro found s ⟨-, same⟩
  rw [same]
  cases found with
  | none => exact rfl
  | some w =>
    dsimp only
    split
    · exact rfl
    · refine Act.ensures_bind.mpr ((Store.requireSound_spec w.graph).mono ?_ fun _ _ failed => failed.1)
      rintro - b ⟨same, -⟩
      rw [same]
      exact (launch_sure kept w .manual vars).mono (fun _ _ _ => trivial) fun _ _ none => none.elim

theorem theExecution_sure {s : Store} (kept : s.InMemory) {id : String} (present : s.runs.get? id ≠ none) :
    (Store.theExecution id).Ensures s (fun _ _ => True) fun _ _ => False := by
  refine Act.ensures_bind.mpr ((Store.execution?_spec kept id).mono ?_ fun _ _ none => none)
  rintro (_ | e) s' ⟨found, -⟩
  · exact present found.symm
  · trivial

/-- A request to cancel a run is refused only if there is no record of the run. -/
theorem requestCancel_refused {d : Run.Desk (World δ)} (kept : d.world.store.InMemory) (id : String) :
    (Run.requestCancel (surroundings setup) id).Ensures d
      (fun _ d' => id ∈ d.active ∧ d'.world = d.world ∨ d'.world.store.runs.get? id ≠ none) fun _ d' => d' = d := by
  rw [Run.requestCancel, Act.ensures_bind, Run.ensures_claim]
  by_cases driven : id ∈ d.active
  · rw [if_pos (by simpa using driven)]
    exact .inl ⟨driven, rfl⟩
  rw [if_neg (by simpa using driven)]
  simp only [if_true, Act.ensures_andThen, Act.ensures_bind, Run.Desk.inWorld, Act.ensures_onPart]
  refine World.ensures_inStore.mpr ((Store.execution?_spec kept id).mono ?_ fun _ _ none => none.elim)
  rintro found s ⟨rfl, same⟩
  rw [same]
  cases stored : d.world.store.runs.get? id with
  | none =>
    show Run.Desk.released id false ⟨id :: d.active, d.cancels, d.world⟩ = d
    rw [Run.Desk.released, Run.without_claimed driven]
    rfl
  | some e =>
    have present : d.world.store.runs.get? id ≠ none := by simp [stored]
    have own : e.id = id := kept.runs.label_eq stored
    cases status : e.status with
    | waiting =>
      simp only [status]
      refine (Run.ensures_handed (x := Run.cancel (surroundings setup)) (e := e)).mpr ?_
      have can : e.status.canBecome .cancelled := by rw [status]; rfl
      refine (Run.cancel_spec (k := ledger setup) (by exact kept) (own ▸ present) can).mono ?_ fun _ _ none => none.elim
      rintro - h ⟨_, _, -, -, becomes⟩
      refine .inr ?_
      show (ledger setup).record h.desk.world id ≠ none
      rw [becomes.record, ← own, Function.update_self]
      simp
    | _ =>
      simp only [status]
      exact .inr present

/-- A cancellation that is refused leaves no trace, if the runs that are driven have not lost their records. -/
theorem cancel_refused (kept : a.store.InMemory) (claimed : ∀ id ∈ a.desk.active, a.store.runs.get? id ≠ none)
    (id : String) : Traceless (cancel setup id) a := by
  refine .of_same ?_
  have valid := Run.requestCancel_spec (k := ledger setup) kept id
  refine Act.ensures_bind.mpr (ensures_atDesk.mpr (((requestCancel_refused kept id).and valid).mono ?_ ?_))
  · rintro _ d ⟨known, requested⟩
    have present : d.world.store.runs.get? id ≠ none := by
      rcases known with ⟨driven, same⟩ | present
      · rw [same]
        exact claimed id driven
      · exact present
    exact ensures_inStore.mpr ((theExecution_sure requested.valid present).mono (fun _ _ _ => trivial)
      fun _ _ none => none.elim)
  · rintro _ d ⟨same, -⟩
    rw [same]

theorem submitStored_refused (kept : a.store.InMemory) (id : String) :
    Traceless (submitStored setup id) a := by
  refine .of_same ?_
  refine Act.ensures_bind.mpr (ensures_inStore.mpr ((Store.theExecution_spec kept id).mono ?_ ?_))
  · intro e s _
    exact Act.ensures_bind.mpr ((submit_sure setup (.start e) _).mono (fun _ _ _ => trivial) fun _ _ none => none.elim)
  · intro _ s same
    rw [same]
    rfl

/-- A request on definitions leaves no trace of itself if it is refused, over any store. -/
theorem Request.OnDefinitions.traceless {request : Request} (on : request.OnDefinitions) (a : Automation δ) :
    Traceless (request.act setup) a := by
  cases request with
  | create w => exact (inStore_refused (Store.createWorkflow_cautious w) a).unanswered
  | createOfRecord datum => exact (inStore_refused (Store.createOfRecord_cautious datum) a).unanswered
  | createFromTemplate id name => exact (inStore_refused (Store.createFromTemplate_cautious id name) a).unanswered
  | edit id changes => exact (inStore_refused (Store.editWorkflow_cautious id changes) a).unanswered
  | take document name id => exact (inStore_refused (Store.importWorkflow_cautious document name id) a).unanswered
  | enable id => exact (inStore_refused (Store.enableWorkflow_cautious id) a).unanswered
  | disable id => exact (inStore_refused (Store.disableWorkflow_cautious id) a).unanswered
  | remove id => exact inStore_refused (Store.removeWorkflow_cautious id) a
  | run | emit | tick | cancel | submit | drain | clock => exact on.elim

/-- Every request of a session but a tick leaves no trace of itself if it is refused. -/
theorem Session.traceless (session : Session setup past a) (request : Request)
    (other : ∀ time context, request ≠ .tick time context) : Traceless (request.act setup) a := by
  have kept := session.steady.orderly.kept
  cases request with
  | run id vars => exact (run_refused kept id vars).unanswered
  | emit event payload =>
    obtain ⟨es, b, emitted, -⟩ := session.emits event payload
    exact Traceless.unanswered (.of_sure ((Act.ensures_of_eq (y := pure es) emitted).mpr trivial))
  | tick time context => exact absurd rfl (other time context)
  | cancel id =>
    have idle : ∀ id ∈ a.desk.active, a.store.runs.get? id ≠ none := by simp [session.steady.orderly.idle]
    exact (cancel_refused kept idle id).unanswered
  | submit id => exact (submitStored_refused kept id).unanswered
  | drain => exact .of_sure (drain_sure setup a)
  | clock time => trivial
  | _ =>
    refine Request.OnDefinitions.traceless ?_ a
    trivial

/-- **What is refused leaves no trace.** At every point of a session, whatever is asked for: if it is refused, then
workflows, runs, the memory of triggers, errands, claims and requests to cancel are as they were. Only a tick may
fail after it has begun to act. Requests on definitions leave no trace over any store, be it in files. And an edit of a
workflow that is enabled is taken only if the graph has no defects afterwards. -/
theorem Session.refuses (session : Session setup past a) :
    (∀ request failure, (∀ time context, request ≠ .tick time context) →
      (request.act setup a).1 = .error failure → Unmarked a (a.after setup request)) ∧
    (∀ (b : Automation δ) request failure, request.OnDefinitions →
      (request.act setup b).1 = .error failure → Unmarked b (b.after setup request)) ∧
    ∀ id changes w, a.store.definitions.get? id = some w → w.enabled = true →
      ((Request.edit id changes).act setup a).1 = .ok () →
        ∃ made, Edit.ofRecord changes = .value made ∧ (made.apply a.store.now w).graph.defects = .ok [] ∧
          (a.after setup (.edit id changes)).store.definitions.get? id = some (made.apply a.store.now w) := by
  refine ⟨?_, ?_, ?_⟩
  · intro request failure other refused
    rw [← act_state]
    exact (session.traceless request other).of_error (Prod.ext refused rfl)
  · intro b request failure on refused
    rw [← act_state]
    exact (on.traceless b).of_error (Prod.ext refused rfl)
  · intro id changes w stored enabled taken
    have edited : ((Request.edit id changes).act setup).Ensures a
        (fun _ b => ∃ made, Edit.ofRecord changes = .value made ∧ (made.apply a.store.now w).graph.defects = .ok [] ∧
          b.store.definitions.get? id = some (made.apply a.store.now w)) fun _ _ => True := by
      refine Act.ensures_map.mpr (ensures_inStore.mpr
        ((Store.editWorkflow_spec session.steady.orderly.kept id changes).mono ?_ fun _ _ _ => trivial))
      rintro _ s ⟨-, old, known, ⟨made, read, rfl, sound⟩, redefines⟩
      cases stored.symm.trans known
      refine ⟨made, read, sound enabled, ?_⟩
      show s.definitions.get? id = _
      rw [redefines.definitions, Ordered.get?_set_self]
    rw [← act_state]
    exact edited.of_ok (Prod.ext taken rfl)

end Automation

end TriggerFlow

namespace TriggerFlow.Trial

open Automation
open TriggerFlow.Graph (pausing)

/-- An edit that would leave an enabled workflow without edges. -/
def cut : Members := [("edges", .list [])]

/-- An edit of no more than the name. -/
def rename : Members := [("name", .text "Break")]

/-- The workflow on offer under another name. -/
def renamed : Workflow := { flow with name := "Break" }

theorem rename_known : Edit.unknown rename = [] := by simp [Edit.unknown, Edit.fields, Ordered.keys, rename]

theorem offering_session : Session swift [opening] offering := by
  rw [offering_eq]
  exact .asked (.opened nine 0 ()) (.create flow)

theorem edit_act (changes : Members) : ((Request.edit "flow" changes).act swift offering).1 =
    (Store.editWorkflow "flow" changes offering.store).1.map fun _ => () := by
  rw [Request.act, state_map]
  rfl

theorem cut_refused : ∃ failure, ((Request.edit "flow" cut).act swift offering).1 = .error failure := by
  rw [edit_act]
  rcases run : Store.editWorkflow "flow" cut offering.store with ⟨failure | w, s⟩
  · exact ⟨failure, rfl⟩
  · have edited := Store.editWorkflow_spec offering_session.steady.orderly.kept "flow" cut
    obtain ⟨-, old, stored, ⟨made, read, rfl, sound⟩, -⟩ := edited.of_ok run
    cases stored
    cases read
    have left : (Edit.apply ⟨none, none, none, none, some [], none⟩ offering.store.now flow).graph =
      ⟨pausing.nodes, [], 2⟩ := rfl
    have defects := congrArg Except.toOption (sound rfl)
    rw [left] at defects
    exact absurd defects (by decide +kernel)

theorem rename_taken : ((Request.edit "flow" rename).act swift offering).1 = .ok () := by
  have sound : Store.requireSoundIfEnabled renamed = pure () := by
    rw [Store.requireSoundIfEnabled, if_pos (show renamed.enabled = true from rfl)]
    exact requireSound_flow
  have read : Edit.ofRecord rename = .value ⟨some "Break", none, none, none, none, none⟩ := rfl
  have stored : Store.theWorkflow "flow" offering.store = (.ok flow, offering.store) := rfl
  have now : Act.ask Store.now offering.store = (.ok nine, offering.store) := rfl
  rw [edit_act, Store.editWorkflow, rename_known]
  dsimp only
  rw [read, Store.reviseWorkflow, Act.bind_run_ok stored, Act.bind_run_ok now]
  dsimp only
  rw [show Edit.apply _ nine flow = renamed from rfl, sound]
  rfl

/-- The workflow on offer may not lose its edges, and may have another name. -/
theorem offering_refuses : ∃ past a, Session swift past a ∧
    (∃ failure, ((Request.edit "flow" cut).act swift a).1 = .error failure) ∧
    Unmarked a (a.after swift (.edit "flow" cut)) ∧ ((Request.edit "flow" rename).act swift a).1 = .ok () ∧
      (a.after swift (.edit "flow" rename)).store.definitions.get? "flow" = some renamed ∧
        renamed.graph.defects = .ok [] := by
  obtain ⟨failure, refused⟩ := cut_refused
  obtain ⟨unmarked, -, edits⟩ := offering_session.refuses
  obtain ⟨made, read, sound, stored⟩ := edits "flow" rename flow rfl rfl rename_taken
  cases read
  exact ⟨_, _, offering_session, ⟨failure, refused⟩, unmarked _ failure nofun refused, rename_taken, stored, sound⟩

end TriggerFlow.Trial
