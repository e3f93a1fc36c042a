import TriggerFlow.Proofs.Graph.Valid
import TriggerFlow.Proofs.Run.Acts
import TriggerFlow.Proofs.Store
import TriggerFlow.World

/-!
# The ledger of a world

A world whose store is in memory keeps all the promises that runs rely on, whatever its dispatcher does. Runs
leave the definitions of workflows alone.
-/

namespace TriggerFlow.World

variable {δ : Type} {w w' : World δ} {id : String}

/-- The books of a world: the executions in its store, and what has been sent out. -/
def books (δ : Type) : Run.Books (World δ) where
  valid w := w.store.InMemory
  record w := w.store.runs.get?
  sent w := w.sent
  drift w w' := w'.store.definitions = w.store.definitions ∧ w.store.drawn ≤ w'.store.drawn

/-- Executions have been stored, and nothing else has been done. -/
theorem becomes_of_reruns {runs : Ordered Execution} {s : Store} (reruns : w.store.Reruns runs s) :
    (books δ).Becomes w runs.get? { w with store := s } where
  valid := reruns.kept
  record := congrArg Ordered.get? reruns.runs
  sent := rfl
  drift := ⟨reruns.definitions, reruns.drawn⟩

theorem becomes_set {key : String} {e : Execution} {s : Store}
    (reruns : w.store.Reruns (w.store.runs.set key e) s) :
    (books δ).Becomes w (Function.update w.store.runs.get? key (some e)) { w with store := s } :=
  Ordered.get?_set w.store.runs key e ▸ becomes_of_reruns reruns

theorem same_of_reruns {s : Store} (reruns : w.store.Reruns w.store.runs s) :
    (books δ).Same w { w with store := s } where
  valid := reruns.kept
  record := congrArg Ordered.get? reruns.runs
  sent := rfl
  drift := ⟨reruns.definitions, reruns.drawn⟩

variable {α : Type} {good : α → World δ → Prop} {bad : Failure → World δ → Prop}

@[simp] theorem ensures_inStore {x : Act Store α} : (inStore x).Ensures w good bad ↔
    x.Ensures w.store (fun a s => good a { w with store := s }) fun f s => bad f { w with store := s } :=
  Act.ensures_onPart

theorem pass_spec {s : Store} (kept : s.InMemory) (micros : Int) :
    (pass micros).Ensures s (fun _ => s.Reruns s.runs) fun _ => s.Reruns s.runs := by
  unfold Act.Ensures pass
  split
  · rename_i found
    split at found
    · cases found
      exact ⟨⟨kept.kind, kept.runs, kept.definitions⟩, rfl, rfl, le_refl s.drawn⟩
    · cases found
  · rename_i found
    split at found
    · cases found
    · cases found
      exact kept.reruns

/-- The ledger of a world, for any dispatcher. -/
def ledger (d : Action.Dispatcher δ) (cancelAt : Option String) : Run.Ledger (surroundings d cancelAt) where
  toBooks := books δ
  drift_refl w := ⟨rfl, le_refl w.store.drawn⟩
  drift_trans h h' := ⟨h'.1.trans h.1, h.2.trans h'.2⟩
  id_of_record kept found := kept.runs.label_eq found
  load {w} kept id := ensures_inStore.mpr ((Store.execution?_spec kept id).mono
    (fun found s ⟨same, unchanged⟩ => ⟨same, unchanged ▸ same_of_reruns kept.reruns⟩) fun _ _ none => none)
  save {w} kept e := ensures_inStore.mpr ((Store.saveExecution_spec kept e).mono
    (fun _ s reruns => becomes_set reruns) fun _ _ none => none)
  append {w} kept id entry := by
    refine Act.ensures_bind.mpr (ensures_inStore.mpr ((Store.appendLog_spec kept id entry).mono ?_ ?_))
    · rintro - s ⟨e, stored, reruns⟩
      exact ⟨e, stored, becomes_set reruns⟩
    · rintro f s ⟨rfl, lost, unchanged⟩
      exact ⟨rfl, lost, unchanged ▸ same_of_reruns kept.reruns⟩
  waiting {w} kept := by
    refine ensures_inStore.mpr ((Store.executions_spec kept _).mono ?_ ?_)
    · rintro found s ⟨unchanged, nodup, stored⟩
      refine ⟨unchanged ▸ same_of_reruns kept.reruns, nodup, fun e mem => ⟨(stored e mem).1, ?_⟩⟩
      simpa [Store.Selection.holds] using (stored e mem).2
    · exact fun _ s unchanged => unchanged ▸ same_of_reruns kept.reruns
  respond {w} kept sending := ⟨kept, rfl, rfl, rfl, le_refl w.store.drawn⟩
  suffer {w} kept effect := by
    cases effect with
    | pass micros =>
      exact ensures_inStore.mpr ((pass_spec kept micros).mono (fun _ s reruns => becomes_of_reruns reruns)
        fun _ s reruns => same_of_reruns reruns)
    | forget id =>
      refine ensures_inStore.mpr ((Store.forgetExecution_spec kept id).mono ?_ fun _ _ none => none.elim)
      intro _ s reruns
      have becomes := becomes_of_reruns reruns
      rwa [Ordered.get?_erase] at becomes
    | draw =>
      refine Act.ensures_bind.mpr (ensures_inStore.mpr ((Store.draw_spec kept).mono ?_ fun _ _ none => none.elim))
      intro _ s drew
      exact becomes_of_reruns drew.2.2
    | cancel id => exact becomes_of_reruns kept.reruns

/-- If no node is named, no entry of a log asks for a run to be cancelled. -/
theorem discreet (d : Action.Dispatcher δ) (id : String) : (surroundings d none).Discreet id := by
  intro entry w flagged
  have quiet : ((surroundings d none).append id entry).Ensures w (fun flag _ => flag = false)
      fun _ _ => True := by
    refine Act.ensures_bind.mpr ((Act.Ensures.run _ w).mono ?_ fun _ _ _ => trivial)
    intro _ _ _
    simp
  rcases run : (surroundings d none).append id entry w with ⟨_ | flag, w'⟩ <;> rw [run] at flagged
  · cases flagged
  · cases flagged
    cases quiet.of_ok run

end TriggerFlow.World

/-! A small world to try things in: a single run, a dispatcher that only reports, and a clock at nine o'clock. -/

namespace TriggerFlow.Trial

open TriggerFlow.Graph (pausing)

def nine : Instant := .ofParts ⟨2025, 3, 3⟩ 9 0 0 0 (some 0)

abbrev surroundings : Run.Surroundings (World Unit) := World.surroundings (Action.reporter Unit) none

abbrev books : Run.Ledger surroundings := World.ledger (Action.reporter Unit) none

def bounds : Run.Limits := ⟨none, 10⟩

/-- A run of a graph that is about to begin. -/
def created (g : Graph) : Execution :=
  ⟨"run", "flow", .pending, .manual, nine, none, none, [], [], none, g, none⟩

/-- The desk with that run and nothing else. -/
def atNine (g : Graph) : Run.Desk (World Unit) :=
  ⟨[], [], ⟨⟨nine, 0, [], .memory ⟨[], [("run", created g)], []⟩⟩, (), []⟩⟩

theorem created_stored (g : Graph) : books.record (atNine g).world "run" = some (created g) := rfl

theorem atNine_valid (g : Graph) : books.valid (atNine g).world :=
  ⟨⟨_, rfl⟩, Ordered.Indexed.nil.set (created g), .nil⟩

/-- Reports lose no records. -/
theorem spares (id : String) : surroundings.Spares id := by
  intro sending w
  simp [World.surroundings, Action.reporter]

/-- The desk after the run that waits a minute has been started. -/
def afterStart : Run.Desk (World Unit) := (Run.start surroundings bounds (created pausing) (atNine pausing)).2

theorem afterStart_eq : afterStart = (Run.start surroundings bounds (created pausing) (atNine pausing)).2 := rfl

/-- That run as it waits. -/
def parked : Execution := (books.record afterStart.world "run").getD (created pausing)

theorem parked_stored : books.record afterStart.world "run" = some parked := by
  have stored : (books.record afterStart.world "run").isSome = true := by decide +kernel
  unfold parked
  generalize books.record afterStart.world "run" = found at stored
  cases found with
  | none => cases stored
  | some e => rfl

theorem parked_waits : parked.status = .waiting ∧
    parked.wait = some ⟨some (.ofParts ⟨2025, 3, 3⟩ 9 1 0 0 (some 0)), none, none⟩ := by
  decide +kernel

-- What has happened at these desks is for the kernel to compute.
attribute [irreducible] atNine afterStart

end TriggerFlow.Trial
