import TriggerFlow.Proofs.Automation.Refused
import TriggerFlow.Proofs.Automation.Revision
import TriggerFlow.Proofs.Automation.Validated

/-!
# A version stands for a graph

The version of a workflow is counted up whenever its graph is redrawn, and only then. So two graphs of one workflow with
the same version are the same graph, be they stored with the workflow at some time or with its runs, and the graph of a
run never changes. All of that holds as long as no identifier of a workflow is given twice.
-/

namespace TriggerFlow.Automation

open Run (Meanwhile SameRun)

variable {δ : Type} {setup : Setup δ} {origin : Origin} {a b c : Automation δ} {past : List (Automation δ)}
  {e e' : Execution} {request : Request}

/-- A request in a session in which no identifier of a workflow is given twice: what it adds was not there at any
time. Stored runs are not submitted once more. -/
structure Request.Fresh (states : List (Automation δ)) (a : Automation δ) (request : Request) : Prop where
  served : request.OnDefinitions ∨ request.OnRuns
  new : ∀ id, request.creates a = some id → ∀ b ∈ states, b.store.definitions.get? id = none

/-- A session in which no identifier of a workflow is given twice. -/
inductive Register (setup : Setup δ) : List (Automation δ) → Automation δ → Prop where
  | opened (now : Instant) (drawn : Nat) (agent : δ) : Register setup [] (opened (emptyStore now drawn) agent)
  | asked {past : List (Automation δ)} {a : Automation δ} (register : Register setup past a) {request : Request}
    (fresh : request.Fresh (a :: past) a) : Register setup (a :: past) (a.after setup request)

theorem Register.session (register : Register setup past a) : Session setup past a := by
  induction register with
  | opened now drawn agent => exact .opened now drawn agent
  | asked register fresh ih => exact .asked ih _

theorem Request.OnRuns.redrawn (on : request.OnRuns) : request.redrawn = none := by
  cases request <;> first | rfl | exact on.elim

/-- What becomes of a stored definition in a request: its graph stays, or is redrawn and its version counted up. -/
theorem Session.revised (session : Session setup past a) (served : request.OnDefinitions ∨ request.OnRuns) {id : String}
    {w' : Workflow} (stored : (a.after setup request).store.definitions.get? id = some w') :
    request.creates a = some id ∨ ∃ w, a.store.definitions.get? id = some w ∧
      (request.Redraws setup a id ∧ w'.version = w.version + 1 ∨
        ¬ request.Redraws setup a id ∧ w'.graph = w.graph) := by
  rcases served with on | on
  · rw [← act_state] at stored
    have revises := on.revises setup session.steady.orderly.kept
    rcases run : request.act setup a with ⟨failure | _, b⟩ <;> rw [run] at stored
    · rcases (revises.of_error run).each id w' stored with ⟨none, -⟩ | ⟨w, known, -, same⟩
      · cases none
      · refine .inr ⟨w, known, .inr ⟨?_, by simpa using same⟩⟩
        rintro ⟨-, done⟩
        rw [run] at done
        cases done
    · rcases (revises.of_ok run).each id w' stored with ⟨created, -⟩ | ⟨w, known, -, same⟩
      · exact .inl created
      · refine .inr ⟨w, known, ?_⟩
        split at same
        · rename_i redrawn
          exact .inl ⟨⟨redrawn, by rw [run]⟩, same⟩
        · rename_i other
          exact .inr ⟨fun redraws => other redraws.1, same⟩
  · have goes := goes_after session.steady (sources_trivial a request) on
    have graph := goes.motions.graphs session.steady.orderly id
    rw [stored, Option.map_some, eq_comm, Option.map_eq_some_iff] at graph
    obtain ⟨w, known, same⟩ := graph
    refine .inr ⟨w, known, .inr ⟨?_, same.symm⟩⟩
    rintro ⟨redrawn, -⟩
    rw [on.redrawn] at redrawn
    cases redrawn

/-- What has been redrawn is there. -/
theorem Session.there (session : Session setup past a) {id : String} (redraws : request.Redraws setup a id) :
    (a.after setup request).store.definitions.get? id ≠ none := by
  obtain ⟨redrawn, done⟩ := redraws
  have on : request.OnDefinitions := by
    cases request <;> trivial
  have revises := (on.revises setup session.steady.orderly.kept).of_ok
    (Prod.ext done (act_state request a))
  exact revises.there id redrawn

/-- A later definition under an identifier: if the version is still the same, then so is the graph. -/
structure Succeeds (w w' : Workflow) : Prop where
  version : w.version ≤ w'.version
  graph : w.version = w'.version → w.graph = w'.graph

theorem Succeeds.refl (w : Workflow) : Succeeds w w := ⟨le_refl _, fun _ => rfl⟩

theorem Succeeds.trans {w w' w'' : Workflow} (h : Succeeds w w') (h' : Succeeds w' w'') : Succeeds w w'' where
  version := h.version.trans h'.version
  graph same := by
    have between : w.version = w'.version := le_antisymm h.version (h'.version.trans same.ge)
    exact (h.graph between).trans (h'.graph (between.symm.trans same))

theorem Succeeds.of_graph {w w' : Workflow} (same : w'.graph = w.graph) : Succeeds w w' where
  version := (congrArg Graph.version same).ge
  graph _ := same.symm

theorem Succeeds.of_redrawn {w w' : Workflow} (more : w'.version = w.version + 1) : Succeeds w w' where
  version := by omega
  graph same := by omega

/-- Of two states in a session, the definitions in the later one succeed those in the earlier one. -/
theorem Register.succeeds (register : Register setup past a) : ∀ b ∈ a :: past, ∀ id w w',
    b.store.definitions.get? id = some w → a.store.definitions.get? id = some w' → Succeeds w w' := by
  induction register with
  | opened now drawn agent =>
    intro b mem id w w' stored
    rw [List.mem_singleton.mp mem] at stored
    cases stored
  | @asked past a register request fresh ih =>
    intro b mem id w w' stored stored'
    rcases List.mem_cons.mp mem with rfl | mem
    · cases stored.symm.trans stored'
      exact .refl w
    · rcases register.session.revised fresh.served stored' with created | ⟨w₁, known, redrawn | kept⟩
      · rw [fresh.new id created b mem] at stored
        cases stored
      · exact (ih b mem id w w₁ stored known).trans (.of_redrawn redrawn.2)
      · exact (ih b mem id w w₁ stored known).trans (.of_graph kept.2)

/-- Two definitions that have been stored under an identifier at any time have the same graph if they have the same
version. -/
theorem Register.graph_eq (register : Register setup past a) : ∀ b ∈ a :: past, ∀ b' ∈ a :: past, ∀ id w w',
    b.store.definitions.get? id = some w → b'.store.definitions.get? id = some w' → w.version = w'.version →
      w.graph = w'.graph := by
  induction register with
  | opened now drawn agent =>
    intro b mem b' _ id w w' stored
    rw [List.mem_singleton.mp mem] at stored
    cases stored
  | @asked past a register request fresh ih =>
    have later := (register.asked fresh).succeeds
    intro b mem b' mem' id w w' stored stored' same
    rcases List.mem_cons.mp mem with rfl | mem <;> rcases List.mem_cons.mp mem' with rfl | mem'
    · cases stored.symm.trans stored'
      rfl
    · exact ((later b' (List.mem_cons_of_mem _ mem') id w' w stored' stored).graph same.symm).symm
    · exact (later b (List.mem_cons_of_mem _ mem) id w w' stored stored').graph same
    · exact ih b mem b' mem' id w w' stored stored' same

/-- A run was launched from a definition that was stored with its graph. -/
theorem Session.graph_stored (session : Session setup past a) : ∀ b ∈ a :: past, ∀ e, b.Holds e →
    ∃ before ∈ a :: past, ∃ w, before.store.definitions.get? e.workflowId = some w ∧ w.graph = e.graph := by
  induction session with
  | opened now drawn agent =>
    intro b mem e held
    rw [List.mem_singleton.mp mem] at held
    obtain ⟨before, mem', w, offered, own, same⟩ :=
      ((.opened now drawn agent : Session setup _ _).launched e held).mem
    exact ⟨before, mem', w, own ▸ offered.1, same⟩
  | @asked past a session request ih =>
    intro b mem e held
    rcases List.mem_cons.mp mem with rfl | mem
    · obtain ⟨before, mem', w, offered, own, same⟩ := ((session.asked request).launched e held).mem
      exact ⟨before, mem', w, own ▸ offered.1, same⟩
    · obtain ⟨before, mem', found⟩ := ih b mem e held
      exact ⟨before, List.mem_cons_of_mem _ mem', found⟩

theorem Session.steady_of_mem (session : Session setup past a) : ∀ b ∈ a :: past, Steady setup b := by
  induction session with
  | opened now drawn agent => exact List.forall_mem_singleton.mpr (opened_steady now drawn agent)
  | asked session request ih => exact List.forall_mem_cons.mpr ⟨(session.asked request).steady, ih⟩

/-- The records of one run that are held in one state are alike in what the run is. -/
theorem Orderly.alike (orderly : Orderly a) (held : a.Holds e) (held' : a.Holds e') (named : e'.id = e.id) :
    SameRun e e' := by
  have attended {errand : Errand} (mem : errand ∈ a.queue) {r : Execution}
      (stored : a.store.runs.get? errand.record.id = some r) : SameRun errand.record r := by
    obtain ⟨-, meanwhile⟩ := orderly.queue errand mem
    refine meanwhile.own (fun x same => Option.some.inj same ▸ .refl _) r ?_
    rwa [← errand.record_id]
  rcases held with stored | ⟨errand, mem, rfl⟩ <;> rcases held' with stored' | ⟨errand', mem', rfl⟩
  · rw [named] at stored'
    exact Option.some.inj (stored.symm.trans stored') ▸ .refl e
  · exact (attended mem' (named ▸ stored)).symm
  · exact attended mem (named ▸ stored')
  · have same : errand = errand' := by
      refine List.inj_on_of_nodup_map orderly.once mem mem' ?_
      rw [← errand.record_id, ← errand'.record_id, named]
    exact same ▸ .refl _

/-- An identifier that is held at some time has been drawn for good. -/
theorem Session.drawn_of_held (session : Session setup past a) : ∀ b ∈ a :: past, ∀ e, b.Holds e →
    a.store.Drawn e.id := by
  induction session with
  | opened now drawn agent =>
    intro b mem e held
    rw [List.mem_singleton.mp mem] at held
    exact (opened_steady now drawn agent : Steady setup _).orderly.drawn_of_holds held
  | @asked past a session request ih =>
    intro b mem e held
    rcases List.mem_cons.mp mem with rfl | mem
    · exact (session.asked request).steady.orderly.drawn_of_holds held
    · have reaches := reaches_after session.steady (sources_trivial a request)
      exact (ih b mem e held).mono (reaches.moves.drawn_le session.steady.orderly)

/-- What a run is never changes. -/
theorem Session.alike (session : Session setup past a) : ∀ b ∈ a :: past, ∀ e e', b.Holds e → a.Holds e' →
    e'.id = e.id → SameRun e e' := by
  induction session with
  | opened now drawn agent =>
    intro b mem e e' held held' named
    rw [List.mem_singleton.mp mem] at held
    exact (opened_steady now drawn agent : Steady setup _).orderly.alike held held' named
  | @asked past a session request ih =>
    intro b mem e e' held held' named
    have steady := session.steady
    rcases List.mem_cons.mp mem with rfl | mem
    · exact (session.asked request).steady.orderly.alike held held' named
    · have drawn := session.drawn_of_held b mem e held
      let origin : Origin := .plain fun x => x.id = e.id → SameRun e x
      have sources : Sources origin a request := {
        same := fun x y alike own here => (own (alike.id.symm.trans here)).trans alike
        admits := fun w kind payload _ _ => ⟨trivial, fun fresh undrawn here =>
          (undrawn (show a.store.Drawn fresh.id from (show fresh.id = e.id from here) ▸ drawn)).elim⟩
        known := fun x known here => ih b mem e x held known here }
      have reaches := reaches_after steady sources
      exact reaches.moves.origin_of_holds sources.same steady.orderly sources.known e' held' named

theorem Request.redrawn_of_creates {id : String} (creates : request.creates a = some id) : request.redrawn = none := by
  cases request with
  | edit => cases creates
  | take document name id =>
    cases id with
    | some => cases creates
    | none => rfl
  | _ => rfl

/-- A request that succeeds in redrawing a graph counts its version up, and no other request changes it. -/
theorem Session.counted_up (session : Session setup past a) (fresh : request.Fresh (a :: past) a) (id : String) :
    (request.Redraws setup a id → ∃ w w', a.store.definitions.get? id = some w ∧
      (a.after setup request).store.definitions.get? id = some w' ∧ w'.version = w.version + 1) ∧
    (¬ request.Redraws setup a id → ∀ w w', a.store.definitions.get? id = some w →
      (a.after setup request).store.definitions.get? id = some w' → w'.version = w.version) := by
  refine ⟨fun redraws => ?_, fun redraws w w' known stored => ?_⟩
  · obtain ⟨w', stored⟩ := Option.ne_none_iff_exists'.mp (session.there redraws)
    rcases session.revised fresh.served stored with created | ⟨w, known, ⟨-, more⟩ | ⟨otherwise, -⟩⟩
    · cases (Request.redrawn_of_creates created).symm.trans redraws.1
    · exact ⟨w, w', known, stored, more⟩
    · exact absurd redraws otherwise
  · rcases session.revised fresh.served stored with created | ⟨old, present, ⟨redrawn, -⟩ | ⟨-, same⟩⟩
    · cases (fresh.new id created a List.mem_cons_self).symm.trans known
    · exact absurd redrawn redraws
    · cases known.symm.trans present
      exact congrArg Graph.version same

/-- At every point of a session in which no identifier is given twice, versions have never gone down, and they go up by
one when a graph is redrawn and only then. The graph of a run is that of every run and every definition of the same
workflow with the same version, at whatever time, and it never changes. -/
theorem Register.pins (register : Register setup past a) :
    (∀ b ∈ past, ∀ id w w', b.store.definitions.get? id = some w → a.store.definitions.get? id = some w' →
      w.version ≤ w'.version) ∧
    (∀ request : Request, request.Fresh (a :: past) a → ∀ id,
      (request.Redraws setup a id → ∃ w w', a.store.definitions.get? id = some w ∧
        (a.after setup request).store.definitions.get? id = some w' ∧ w'.version = w.version + 1) ∧
      (¬ request.Redraws setup a id → ∀ w w', a.store.definitions.get? id = some w →
        (a.after setup request).store.definitions.get? id = some w' → w'.version = w.version)) ∧
    (∀ b ∈ a :: past, ∀ b' ∈ a :: past, ∀ e e', b.store.runs.get? e.id = some e → b'.store.runs.get? e'.id = some e' →
      e.workflowId = e'.workflowId → e.graph.version = e'.graph.version → e.graph = e'.graph) ∧
    (∀ b ∈ a :: past, ∀ b' ∈ a :: past, ∀ e w, b.store.runs.get? e.id = some e →
      b'.store.definitions.get? e.workflowId = some w → w.version = e.graph.version → w.graph = e.graph) ∧
    (∀ b ∈ past, ∀ id e e', b.store.runs.get? id = some e → a.store.runs.get? id = some e' → e'.graph = e.graph) := by
  have session := register.session
  refine ⟨?_, fun request fresh => session.counted_up fresh, ?_, ?_, ?_⟩
  · intro b mem id w w' stored stored'
    exact (register.succeeds b (List.mem_cons_of_mem _ mem) id w w' stored stored').version
  · intro b mem b' mem' e e' stored stored' own same
    obtain ⟨c, launched, w, known, graph⟩ := session.graph_stored b mem e (.inl stored)
    obtain ⟨c', launched', w', known', graph'⟩ := session.graph_stored b' mem' e' (.inl stored')
    rw [← graph, ← graph'] at same ⊢
    exact register.graph_eq c launched c' launched' e.workflowId w w' known (own ▸ known') same
  · intro b mem b' mem' e w stored present same
    obtain ⟨c, launched, w', known, graph⟩ := session.graph_stored b mem e (.inl stored)
    rw [← graph] at same ⊢
    exact register.graph_eq b' mem' c launched e.workflowId w w' present known same
  · intro b mem id e e' stored stored'
    obtain rfl := (session.steady_of_mem b (List.mem_cons_of_mem _ mem)).orderly.kept.runs.label_eq stored
    have own := session.steady.orderly.kept.runs.label_eq stored'
    exact (session.alike b (List.mem_cons_of_mem _ mem) e e' (.inl stored) (.inl (own ▸ stored')) own).graph

end TriggerFlow.Automation

namespace TriggerFlow.Trial

open Automation

/-- The system as soon as the workflow has been disabled. -/
def resting : Automation Unit := pausingRun.after swift (.disable "flow")

/-- The edges are given anew: there are none. -/
def cutting : Request := .edit "flow" cut

theorem restingRegister : Register swift [pausingRun, offering, opening] resting := by
  have creates : (Request.create flow).Fresh [opening] opening :=
    ⟨.inl trivial, fun _ _ => List.forall_mem_singleton.mpr rfl⟩
  have first : Register swift [] opening := .opened nine 0 ()
  have created := first.asked creates
  rw [← offering_eq] at created
  have runs : (Request.run "flow" []).Fresh [offering, opening] offering := ⟨.inr trivial, nofun⟩
  have launched := created.asked runs
  rw [← pausingRun_eq] at launched
  exact launched.asked ⟨.inl trivial, nofun⟩

theorem cutting_redraws : cutting.Redraws swift resting "flow" := by
  have done : (cutting.act swift resting).1.toBool = true := by decide +kernel
  refine ⟨by decide, ?_⟩
  cases answer : (cutting.act swift resting).1 with
  | ok => rfl
  | error => simp [answer, Except.toBool] at done

/-- A run keeps the graph that it was launched with, and the workflow has got another one. -/
theorem cutting_pins : ∃ e w w', resting.store.runs.get? (Store.idOfCount 1) = some e ∧
    resting.store.definitions.get? "flow" = some w ∧
      (resting.after swift cutting).store.definitions.get? "flow" = some w' ∧
        w.graph = e.graph ∧ w'.version = w.version + 1 := by
  have register := restingRegister
  have fresh : cutting.Fresh [resting, pausingRun, offering, opening] resting := ⟨.inl trivial, nofun⟩
  obtain ⟨w, w', stored, stored', more⟩ := (register.pins.2.1 cutting fresh "flow").1 cutting_redraws
  have run : (resting.store.runs.get? (Store.idOfCount 1)).map (fun e => (e.workflowId, e.graph.version)) =
      some ("flow", 1) := by decide +kernel
  obtain ⟨e, held, told⟩ := Option.map_eq_some_iff.mp run
  have version : (resting.store.definitions.get? "flow").map Workflow.version = some 1 := by decide +kernel
  rw [stored] at version
  obtain ⟨own, first⟩ := Prod.mk.inj told
  have label := register.session.steady.orderly.kept.runs.label_eq held
  have same := register.pins.2.2.2.1 resting List.mem_cons_self resting List.mem_cons_self e w (label ▸ held)
    (own ▸ stored) ((Option.some.inj version).trans first.symm)
  exact ⟨e, w, w', held, stored, stored', same, more⟩

end TriggerFlow.Trial
