import TriggerFlow.Proofs.Automation.Session

/-!
# What requests make of definitions

A request on definitions may add one, with nothing counted, or redraw the graph of one, which counts its version up. It
leaves all other graphs alone, and the counts of all. The other requests leave every graph alone.
-/

namespace TriggerFlow

namespace Workflow

/-- What is counted of the runs of a workflow. -/
def counts (w : Workflow) : Int × Int × Option Instant := (w.executionCount, w.errorCount, w.lastExecutedAt)

end Workflow

namespace Edit

/-- What is read of a member that may be missing is there if the member is. -/
theorem isSome_of_given {α : Type} {m : Members} {key : String} {read : Json → Reading α} {found : Option α}
    (given : Record.optional m key none (fun datum => some <$> read datum) = .value found) :
    found.isSome = m.has key := by
  rw [Record.optional] at given
  rw [Ordered.has]
  cases here : m.get? key with
  | none =>
    rw [here] at given
    cases given
    rfl
  | some datum =>
    rw [here] at given
    obtain ⟨a, -, rfl⟩ := Reading.map_eq_value (Reading.under_eq_value given)
    rfl

/-- Whether the members of an edit give nodes or edges. -/
def redraws (changes : Members) : Bool := changes.has "nodes" || changes.has "edges"

/-- An edit touches the graph if its members give nodes or edges. -/
theorem touchesGraph_of_read {changes : Members} {made : Edit} (read : ofRecord changes = .value made) :
    made.touchesGraph = redraws changes := by
  obtain ⟨_, vars, read₅, -, rfl⟩ := Reading.seq_eq_value read
  obtain ⟨_, edges, read₄, given, rfl⟩ := Reading.seq_eq_value read₅
  obtain ⟨_, nodes, read₃, given', rfl⟩ := Reading.seq_eq_value read₄
  obtain ⟨_, category, read₂, -, rfl⟩ := Reading.seq_eq_value read₃
  obtain ⟨_, description, read₁, -, rfl⟩ := Reading.seq_eq_value read₂
  obtain ⟨name, -, rfl⟩ := Reading.map_eq_value read₁
  show (nodes.isSome || edges.isSome) = redraws changes
  rw [isSome_of_given given, isSome_of_given given', redraws]

end Edit

namespace Store

variable {s s₁ s' : Store} {id : String} {created redrawn : Option String}

/-- What becomes of definitions: one may be added, with nothing counted, and one may be redrawn, which is there then. -/
structure Revises (s : Store) (created redrawn : Option String) (s' : Store) : Prop where
  kept : s'.InMemory
  runs : s'.runs = s.runs
  drawn : s.drawn ≤ s'.drawn
  each : ∀ id w', s'.definitions.get? id = some w' → created = some id ∧ w'.counts = (0, 0, none) ∨
    ∃ w, s.definitions.get? id = some w ∧ w'.counts = w.counts ∧
      if redrawn = some id then w'.version = w.version + 1 else w'.graph = w.graph
  there : ∀ id, redrawn = some id → s'.definitions.get? id ≠ none

namespace Revises

theorem of_reruns (reruns : s.Reruns s.runs s') : Revises s none none s' where
  kept := reruns.kept
  runs := reruns.runs
  drawn := reruns.drawn
  each _ w' present := .inr ⟨w', reruns.definitions ▸ present, rfl, by simp⟩
  there := nofun

theorem of_eq (kept : s.InMemory) (same : s' = s) : Revises s none none s' := by
  rw [same]
  exact of_reruns kept.reruns

/-- Identifiers have been drawn before. -/
theorem after (reruns : s.Reruns s.runs s₁) (revises : Revises s₁ created redrawn s') :
    Revises s created redrawn s' where
  kept := revises.kept
  runs := revises.runs.trans reruns.runs
  drawn := reruns.drawn.trans revises.drawn
  each id w' present := reruns.definitions ▸ revises.each id w' present
  there := revises.there

theorem of_set {w' : Workflow} (redefines : s.Redefines (s.definitions.set id w') s')
    (here : created = some id ∧ w'.counts = (0, 0, none) ∨ ∃ w, s.definitions.get? id = some w ∧ w'.counts = w.counts ∧
      if redrawn = some id then w'.version = w.version + 1 else w'.graph = w.graph)
    (only : ∀ other, redrawn = some other → other = id) : Revises s created redrawn s' where
  kept := redefines.kept
  runs := redefines.runs
  drawn := redefines.drawn
  each other x present := by
    rw [redefines.definitions, Ordered.get?_set] at present
    by_cases same : other = id
    · subst same
      rw [Function.update_self] at present
      cases present
      exact here
    · rw [Function.update_of_ne same] at present
      refine .inr ⟨x, present, rfl, ?_⟩
      rw [if_neg fun redrawn => same (only other redrawn)]
  there other redraws := by
    rw [only other redraws, redefines.definitions, Ordered.get?_set_self]
    simp

theorem of_erase (redefines : s.Redefines (s.definitions.erase id) s') : Revises s none none s' where
  kept := redefines.kept
  runs := redefines.runs
  drawn := redefines.drawn
  each other w' present := by
    rw [redefines.definitions, Ordered.get?_erase] at present
    by_cases same : other = id
    · simp [same] at present
    · rw [Function.update_of_ne same] at present
      exact .inr ⟨w', present, rfl, by simp⟩
  there := nofun

end Revises

theorem createWorkflow_revises (kept : s.InMemory) (w : Workflow) : (createWorkflow w).Ensures s
    (fun w' s' => s.Revises (some w'.id) none s') fun _ => s.Revises none none := by
  refine (createWorkflow_spec kept w).mono ?_ fun _ _ same => .of_eq kept same
  rintro _ s' ⟨rfl, -, redefines⟩
  exact .of_set redefines (.inl ⟨rfl, rfl⟩) nofun

theorem reviseWorkflow_revises (kept : s.InMemory) (id : String) (edit : Reading Edit) (redraws : Bool)
    (touches : ∀ made, edit = .value made → made.touchesGraph = redraws) : (reviseWorkflow id edit).Ensures s
      (fun _ => s.Revises none (if redraws then some id else none)) fun _ => s.Revises none none := by
  refine (reviseWorkflow_spec kept id edit).mono ?_ fun _ _ failed => .of_eq kept failed.1
  rintro _ s' ⟨w, stored, ⟨made, rfl, rfl, -⟩, redefines⟩
  have touches := touches made rfl
  refine .of_set redefines (.inr ⟨w, stored, rfl, ?_⟩) fun other => ?_
  · cases redraws with
    | true =>
      rw [if_pos rfl, if_pos rfl]
      show (if made.touchesGraph then w.version + 1 else w.version) = w.version + 1
      rw [touches, if_pos rfl]
    | false =>
      rw [if_neg (by simp)]
      obtain ⟨nodes, edges⟩ : made.nodes = none ∧ made.edges = none := by
        simpa [Edit.touchesGraph] using touches
      simp [Workflow.graph, Edit.apply, touches, nodes, edges]
  · cases redraws <;> simp +contextual

theorem editWorkflow_revises (kept : s.InMemory) (id : String) (changes : Members) : (editWorkflow id changes).Ensures s
    (fun _ => s.Revises none (if Edit.redraws changes then some id else none)) fun _ => s.Revises none none := by
  unfold editWorkflow
  split
  · exact reviseWorkflow_revises kept id _ _ fun made read => Edit.touchesGraph_of_read read
  · exact .of_eq kept rfl

theorem enableWorkflow_revises (kept : s.InMemory) (id : String) :
    (enableWorkflow id).Ensures s (fun _ => s.Revises none none) fun _ => s.Revises none none := by
  refine (enableWorkflow_spec kept id).mono ?_ fun _ _ failed => .of_eq kept failed.1
  rintro _ s' ⟨w, stored, -, redefines⟩
  exact .of_set redefines (.inr ⟨w, stored, rfl, rfl⟩) nofun

theorem disableWorkflow_revises (kept : s.InMemory) (id : String) :
    (disableWorkflow id).Ensures s (fun _ => s.Revises none none) fun _ => s.Revises none none := by
  refine (disableWorkflow_spec kept id).mono ?_ fun _ _ failed => .of_eq kept failed.1
  rintro _ s' ⟨w, stored, redefines⟩
  exact .of_set redefines (.inr ⟨w, stored, rfl, rfl⟩) nofun

theorem removeWorkflow_revises (kept : s.InMemory) (id : String) :
    (removeWorkflow id).Ensures s (fun _ => s.Revises none none) fun _ => s.Revises none none :=
  (removeWorkflow_spec kept id).mono (fun _ _ there => .of_erase there.2) fun _ _ missing => .of_erase missing.2

/-- A fresh identifier is drawn for a definition that is added. -/
theorem draw_then_revises (kept : s.InMemory) (w : Fresh → Workflow) :
    (draw >>= fun fresh => createWorkflow (w fresh)).Ensures s (fun w' s' => s.Revises (some w'.id) none s')
      fun _ => s.Revises none none := by
  refine Act.ensures_bind.mpr ((draw_spec kept).mono ?_ fun _ _ none => none.elim)
  rintro fresh s₁ ⟨-, -, reruns⟩
  exact (createWorkflow_revises reruns.kept (w fresh)).mono (fun _ _ => .after reruns) fun _ _ => .after reruns

theorem createOfRecord_revises (kept : s.InMemory) (datum : Json) : (createOfRecord datum).Ensures s
    (fun w' s' => s.Revises (some w'.id) none s') fun _ => s.Revises none none := by
  refine Act.ensures_bind.mpr (Act.ensures_bind.mpr ((readRecord_spec kept Workflow.ofRecord datum).mono ?_
    fun _ _ none => none.elim))
  intro reading s₁ reruns
  cases reading with
  | issues => exact .of_reruns reruns
  | value w =>
    exact (createWorkflow_revises reruns.kept w).mono (fun _ _ => .after reruns) fun _ _ => .after reruns

theorem createFromTemplate_revises (kept : s.InMemory) (id : String) (name : Option String) :
    (createFromTemplate id name).Ensures s (fun w' s' => s.Revises (some w'.id) none s')
      fun _ => s.Revises none none := by
  refine Act.ensures_bind.mpr (Act.ensures_lift.mpr ⟨?_, fun _ _ => .of_eq kept rfl⟩)
  exact fun b _ => draw_then_revises kept _

/-- A document is put in the place of a graph, or makes a new draft. -/
theorem importWorkflow_revises (kept : s.InMemory) (document : Json) (name id : Option String) :
    (importWorkflow document name id).Ensures s
      (fun w' s' => s.Revises (if id.isSome then none else some w'.id) id s') fun _ => s.Revises none none := by
  refine Act.ensures_bind.mpr (Act.ensures_lift.mpr ⟨?_, fun _ _ => .of_eq kept rfl⟩)
  intro g _
  cases id with
  | some id => exact reviseWorkflow_revises kept id _ true fun _ made => by cases made; rfl
  | none => exact draw_then_revises kept _

end Store

namespace Automation

variable {δ α : Type} {setup : Setup δ} {origin : Origin} {a b : Automation δ}

/-- The identifier of a definition that has been answered. -/
def identified (answer : Except Failure Workflow) : Option String := answer.toOption.map Workflow.id

/-- The identifier of the definition that a request adds, if it succeeds in that. -/
def Request.creates (a : Automation δ) : Request → Option String
  | .create w => identified (Store.createWorkflow w a.store).1
  | .createOfRecord datum => identified (Store.createOfRecord datum a.store).1
  | .createFromTemplate id name => identified (Store.createFromTemplate id name a.store).1
  | .take document name none => identified (Store.importWorkflow document name none a.store).1
  | _ => none

/-- The definition that a request redraws, if it succeeds. -/
def Request.redrawn : Request → Option String
  | .edit id changes => if Edit.redraws changes then some id else none
  | .take _ _ id => id
  | _ => none

/-- A request succeeds, and gives a definition nodes or edges. -/
def Request.Redraws (setup : Setup δ) (a : Automation δ) (id : String) (request : Request) : Prop :=
  request.redrawn = some id ∧ (request.act setup a).1 = .ok ()

section Revises

variable {created redrawn : Option String}

theorem inStore_revises {x : Act Store α} (revises : x.Ensures a.store
    (fun _ => a.store.Revises created redrawn) fun _ => a.store.Revises none none) :
    ((fun _ => ()) <$> inStore x : Act (Automation δ) Unit).Ensures a
      (fun _ b => a.store.Revises created redrawn b.store) fun _ b => a.store.Revises none none b.store :=
  Act.ensures_map.mpr (ensures_inStore.mpr revises)

/-- What is added is what is answered. -/
theorem inStore_creates {x : Act Store Workflow} (revises : x.Ensures a.store
    (fun w' => a.store.Revises (some w'.id) redrawn) fun _ => a.store.Revises none none) :
    ((fun _ => ()) <$> inStore x : Act (Automation δ) Unit).Ensures a
      (fun _ b => a.store.Revises (identified (x a.store).1) redrawn b.store)
      fun _ b => a.store.Revises none none b.store := by
  refine inStore_revises ((revises.and (Act.Ensures.run x a.store)).mono ?_ fun _ _ both => both.1)
  rintro w' s ⟨revises, run⟩
  rw [run]
  exact revises

/-- A request on definitions adds one, or redraws one, and leaves the others as they are but for switching them on or
off. -/
theorem Request.OnDefinitions.revises {request : Request} (on : request.OnDefinitions) (setup : Setup δ)
    (kept : a.store.InMemory) : (request.act setup).Ensures a
      (fun _ b => a.store.Revises (request.creates a) request.redrawn b.store)
      fun _ b => a.store.Revises none none b.store := by
  cases request with
  | create w => exact inStore_creates (Store.createWorkflow_revises kept w)
  | createOfRecord datum => exact inStore_creates (Store.createOfRecord_revises kept datum)
  | createFromTemplate id name => exact inStore_creates (Store.createFromTemplate_revises kept id name)
  | edit id changes => exact inStore_revises (Store.editWorkflow_revises kept id changes)
  | take document name id =>
    cases id with
    | some id => exact inStore_revises (Store.importWorkflow_revises kept document name (some id))
    | none => exact inStore_creates (Store.importWorkflow_revises kept document name none)
  | enable id => exact inStore_revises (Store.enableWorkflow_revises kept id)
  | disable id => exact inStore_revises (Store.disableWorkflow_revises kept id)
  | remove id => exact ensures_inStore.mpr (Store.removeWorkflow_revises kept id)
  | run | emit | tick | cancel | submit | drain | clock => exact on.elim

end Revises

section Graphs

theorem graph_touched (change : Workflow → Workflow) (graph : ∀ w, (change w).graph = w.graph) (id key : String)
    (definitions : Ordered Workflow) : ((Store.touched id change definitions).get? key).map Workflow.graph =
      (definitions.get? key).map Workflow.graph := by
  rw [Store.get?_touched, Option.map_map]
  congr 1
  funext w
  show Workflow.graph (if key = id then change w else w) = w.graph
  split
  · exact graph w
  · rfl

theorem graph_noted (result : Except Failure Run.Driven) (key : String) (definitions : Ordered Workflow) :
    ((Store.noted result definitions).get? key).map Workflow.graph = (definitions.get? key).map Workflow.graph := by
  unfold Store.noted
  split
  · split
    · exact graph_touched Workflow.failedOnce (fun _ => rfl) _ _ _
    · rfl
  · rfl

/-- No motion redraws a graph. -/
theorem Motion.graphs (motion : Motion setup origin a b) (orderly : Orderly a) (id : String) :
    (b.store.definitions.get? id).map Workflow.graph = (a.store.definitions.get? id).map Workflow.graph := by
  cases motion with
  | rested reruns =>
    exact congrArg (fun definitions => (Ordered.get? definitions id).map Workflow.graph) reruns.definitions
  | @launched s₁ s w kind payload new reruns drawn counted =>
    show (s.definitions.get? id).map Workflow.graph = _
    rw [counted.definitions, reruns.definitions]
    exact graph_touched (Workflow.launchedAt a.store.now) (fun _ => rfl) _ _ _
  | queued => rfl
  | @carried errand rest s queue counted =>
    have same : (drive setup errand a.desk).2.world.store.definitions = a.store.definitions :=
      (orderly.drive_first setup queue).around.drift.1
    show (s.definitions.get? id).map Workflow.graph = _
    rw [counted.definitions, same]
    exact graph_noted _ _ _
  | asked other =>
    have same := (Run.requestCancel_spec (k := ledger setup) orderly.kept other).state.drift.1
    exact congrArg (fun definitions => (Ordered.get? definitions id).map Workflow.graph) same

theorem Motions.graphs (motions : Motions setup origin a b) (orderly : Orderly a) (id : String) :
    (b.store.definitions.get? id).map Workflow.graph = (a.store.definitions.get? id).map Workflow.graph := by
  induction motions with
  | refl => rfl
  | tail earlier motion ih => exact (motion.graphs (Moves.orderly (Motions.moves earlier) orderly) id).trans ih

end Graphs

end Automation

end TriggerFlow
