import TriggerFlow.Automation.Definition
import TriggerFlow.Proofs.Store

/-!
# Edits of definitions

Whatever is done with the definitions of workflows, one that is enabled afterwards either has a graph without
defects, or was enabled before with the same graph.
-/

namespace TriggerFlow.Store

variable {s s' s'' : Store} {id : String}

/-- The definitions have been edited, and nothing has been done with the executions. -/
structure Edits (s s' : Store) : Prop where
  kept : s'.InMemory
  runs : s'.runs = s.runs
  drawn : s.drawn ≤ s'.drawn
  sound : ∀ key w', s'.definitions.get? key = some w' → w'.enabled = true →
    w'.graph.defects = .ok [] ∨
      ∃ w, s.definitions.get? key = some w ∧ w.enabled = true ∧ w.graph = w'.graph

namespace Edits

theorem refl (kept : s.InMemory) : Edits s s where
  kept := kept
  runs := rfl
  drawn := le_refl s.drawn
  sound _ w' present enabled := .inr ⟨w', present, enabled, rfl⟩

theorem trans (h : Edits s s') (h' : Edits s' s'') : Edits s s'' where
  kept := h'.kept
  runs := h'.runs.trans h.runs
  drawn := h.drawn.trans h'.drawn
  sound key w'' present enabled := by
    rcases h'.sound key w'' present enabled with defects | ⟨w', present', enabled', same⟩
    · exact .inl defects
    · rw [← same]
      exact h.sound key w' present' enabled'

theorem of_eq (kept : s.InMemory) (same : s' = s) : Edits s s' := by
  rw [same]
  exact refl kept

/-- Time and identifiers have been used up, or triggers remembered. -/
theorem of_reruns (reruns : s.Reruns s.runs s') : Edits s s' where
  kept := reruns.kept
  runs := reruns.runs
  drawn := reruns.drawn
  sound _ w' present enabled := .inr ⟨w', reruns.definitions ▸ present, enabled, rfl⟩

/-- A definition has been stored that is sound if it is enabled. -/
theorem of_set {key : String} {w : Workflow} (redefines : s.Redefines (s.definitions.set key w) s')
    (sound : w.enabled = true → w.graph.defects = .ok [] ∨
      ∃ old, s.definitions.get? key = some old ∧ old.enabled = true ∧ old.graph = w.graph) : Edits s s' where
  kept := redefines.kept
  runs := redefines.runs
  drawn := redefines.drawn
  sound other w' present enabled := by
    rw [redefines.definitions, Ordered.get?_set] at present
    by_cases same : other = key
    · subst same
      rw [Function.update_self] at present
      cases present
      exact sound enabled
    · rw [Function.update_of_ne same] at present
      exact .inr ⟨w', present, enabled, rfl⟩

/-- A definition has been removed. -/
theorem of_erase {key : String} (redefines : s.Redefines (s.definitions.erase key) s') : Edits s s' where
  kept := redefines.kept
  runs := redefines.runs
  drawn := redefines.drawn
  sound other w' present enabled := by
    rw [redefines.definitions, Ordered.get?_erase] at present
    by_cases same : other = key
    · simp [same] at present
    · rw [Function.update_of_ne same] at present
      exact .inr ⟨w', present, enabled, rfl⟩

end Edits

theorem requireSound_spec {S : Type} {a : S} (g : Graph) :
    (Launcher.requireSound g).Ensures a (fun _ a' => a' = a ∧ g.defects = .ok [])
      fun _ a' => a' = a ∧ g.defects ≠ .ok [] := by
  refine Act.ensures_bind.mpr (Act.ensures_lift.mpr ⟨?_, fun fault failed => ⟨rfl, by simp [failed]⟩⟩)
  intro found answer
  cases found with
  | nil => exact ⟨rfl, answer⟩
  | cons => exact ⟨rfl, by simp [answer]⟩

theorem requireSoundIfEnabled_spec (w : Workflow) : (requireSoundIfEnabled w).Ensures s
    (fun _ s' => s' = s ∧ (w.enabled = true → w.graph.defects = .ok []))
    fun _ s' => s' = s ∧ ¬ (w.enabled = true → w.graph.defects = .ok []) := by
  unfold requireSoundIfEnabled
  split
  · rename_i enabled
    exact (requireSound_spec w.graph).mono (fun _ _ found => ⟨found.1, fun _ => found.2⟩)
      fun _ _ found => ⟨found.1, fun sound => found.2 (sound enabled)⟩
  · rename_i disabled
    exact ⟨rfl, fun enabled => absurd enabled disabled⟩

theorem theWorkflow_spec (kept : s.InMemory) (id : String) : (theWorkflow id).Ensures s
    (fun w s' => s' = s ∧ s.definitions.get? id = some w) fun _ s' => s' = s ∧ s.definitions.get? id = none := by
  refine Act.ensures_bind.mpr ((workflow?_spec kept id).mono ?_ fun _ _ none => none.elim)
  rintro (_ | w) s' ⟨found, rfl⟩
  · exact ⟨rfl, found.symm⟩
  · exact ⟨rfl, found.symm⟩

theorem theExecution_spec (kept : s.InMemory) (id : String) : (theExecution id).Ensures s
    (fun e s' => s' = s ∧ s.runs.get? id = some e) fun _ s' => s' = s := by
  refine Act.ensures_bind.mpr ((execution?_spec kept id).mono ?_ fun _ _ none => none.elim)
  rintro (_ | e) s' ⟨found, rfl⟩
  · exact rfl
  · exact ⟨rfl, found.symm⟩

/-- What is stored of a definition when it is added. -/
def adopted (s : Store) (w : Workflow) : Workflow := { w with
  executionCount := 0, errorCount := 0, lastExecutedAt := none, createdAt := s.now, updatedAt := s.now }

theorem createWorkflow_spec (kept : s.InMemory) (w : Workflow) : (createWorkflow w).Ensures s
    (fun w' s' => w' = s.adopted w ∧ (w.enabled = true → w.graph.defects = .ok []) ∧
      s.Redefines (s.definitions.set w.id w') s')
    fun _ s' => s' = s := by
  refine Act.ensures_bind.mpr ((requireSoundIfEnabled_spec w).mono ?_ fun _ _ failed => failed.1)
  rintro - _ ⟨rfl, sound⟩
  refine Act.ensures_bind.mpr (Act.ensures_ask.mpr (Act.ensures_bind.mpr ?_))
  refine (saveWorkflow_spec kept _).mono ?_ fun _ _ none => none.elim
  exact fun _ s' redefines => ⟨rfl, sound, redefines⟩

theorem createWorkflow_edits (kept : s.InMemory) (w : Workflow) :
    (createWorkflow w).Ensures s (fun _ => Edits s) fun _ => Edits s := by
  refine (createWorkflow_spec kept w).mono ?_ fun _ _ same => .of_eq kept same
  rintro _ s' ⟨rfl, sound, redefines⟩
  exact .of_set redefines fun enabled => .inl (sound enabled)

/-- An edit makes something of a definition at some time, and what it makes is sound if it is enabled. -/
def Makes (edit : Reading Edit) (time : Instant) (w w' : Workflow) : Prop :=
  ∃ made, edit = .value made ∧ w' = made.apply time w ∧ (w'.enabled = true → w'.graph.defects = .ok [])

/-- What is stored of an edit is what it makes of the stored definition. -/
theorem reviseWorkflow_spec (kept : s.InMemory) (id : String) (edit : Reading Edit) :
    (reviseWorkflow id edit).Ensures s
      (fun w' s' => ∃ w, s.definitions.get? id = some w ∧ Makes edit s.now w w' ∧
        s.Redefines (s.definitions.set id w') s')
      fun _ s' => s' = s ∧ ∀ w, s.definitions.get? id = some w → ∀ w', ¬ Makes edit s.now w w' := by
  refine Act.ensures_bind.mpr ((theWorkflow_spec kept id).mono ?_ ?_)
  · rintro w _ ⟨same, stored⟩
    rw [same]
    refine Act.ensures_bind.mpr (Act.ensures_ask.mpr ?_)
    cases edit with
    | issues => exact ⟨rfl, fun w _ w' ⟨made, read, _⟩ => by cases read⟩
    | value made =>
      refine Act.ensures_bind.mpr ((requireSoundIfEnabled_spec _).mono ?_ ?_)
      · rintro - s' ⟨same, sound⟩
        rw [same]
        refine Act.ensures_bind.mpr ((saveWorkflow_spec kept _).mono ?_ fun _ _ none => none.elim)
        intro _ s' redefines
        have own : w.id = id := kept.definitions.label_eq stored
        rw [show (made.apply s.now w).id = id from own] at redefines
        exact ⟨w, stored, ⟨made, rfl, rfl, sound⟩, redefines⟩
      · rintro _ s' ⟨same, unsound⟩
        refine ⟨same, ?_⟩
        rintro w₁ stored₁ _ ⟨_, read, rfl, sound⟩
        cases read
        cases stored.symm.trans stored₁
        exact unsound sound
  · rintro _ s' ⟨same, missing⟩
    refine ⟨same, fun w stored => ?_⟩
    cases missing.symm.trans stored

theorem reviseWorkflow_edits (kept : s.InMemory) (id : String) (edit : Reading Edit) :
    (reviseWorkflow id edit).Ensures s (fun _ => Edits s) fun _ => Edits s := by
  refine (reviseWorkflow_spec kept id edit).mono ?_ fun _ _ failed => .of_eq kept failed.1
  rintro _ s' ⟨w, -, ⟨made, -, -, sound⟩, redefines⟩
  exact .of_set redefines fun enabled => .inl (sound enabled)

theorem editWorkflow_spec (kept : s.InMemory) (id : String) (changes : Members) :
    (editWorkflow id changes).Ensures s
      (fun w' s' => Edit.unknown changes = [] ∧ ∃ w, s.definitions.get? id = some w ∧
        Makes (Edit.ofRecord changes) s.now w w' ∧ s.Redefines (s.definitions.set id w') s')
      fun _ s' => s' = s ∧ (Edit.unknown changes = [] → ∀ w, s.definitions.get? id = some w →
        ∀ w', ¬ Makes (Edit.ofRecord changes) s.now w w') := by
  unfold editWorkflow
  split
  · rename_i known
    exact (reviseWorkflow_spec kept id _).mono (fun _ _ done => ⟨known, done⟩)
      fun _ _ failed => ⟨failed.1, fun _ => failed.2⟩
  · rename_i unknown
    exact ⟨rfl, fun known => absurd known unknown⟩

theorem editWorkflow_edits (kept : s.InMemory) (id : String) (changes : Members) :
    (editWorkflow id changes).Ensures s (fun _ => Edits s) fun _ => Edits s := by
  refine (editWorkflow_spec kept id changes).mono ?_ fun _ _ failed => .of_eq kept failed.1
  rintro _ s' ⟨-, w, -, ⟨made, -, -, sound⟩, redefines⟩
  exact .of_set redefines fun enabled => .inl (sound enabled)

theorem removeWorkflow_spec (kept : s.InMemory) (id : String) : (removeWorkflow id).Ensures s
    (fun _ s' => s.definitions.get? id ≠ none ∧ s.Redefines (s.definitions.erase id) s')
    fun _ s' => s.definitions.get? id = none ∧ s.Redefines (s.definitions.erase id) s' := by
  refine Act.ensures_bind.mpr ((deleteWorkflow_spec kept id).mono ?_ fun _ _ none => none.elim)
  rintro found s' ⟨known, redefines⟩
  cases found with
  | true =>
    refine ⟨?_, redefines⟩
    rwa [Ordered.has, eq_comm, Option.isSome_iff_ne_none] at known
  | false =>
    refine ⟨?_, redefines⟩
    rwa [Ordered.has, eq_comm, Option.isSome_eq_false_iff, Option.isNone_iff_eq_none] at known

theorem removeWorkflow_edits (kept : s.InMemory) (id : String) :
    (removeWorkflow id).Ensures s (fun _ => Edits s) fun _ => Edits s :=
  (removeWorkflow_spec kept id).mono (fun _ _ there => .of_erase there.2) fun _ _ missing => .of_erase missing.2

/-- What is enabled is the stored definition, and its graph has no defects. -/
theorem enableWorkflow_spec (kept : s.InMemory) (id : String) : (enableWorkflow id).Ensures s
    (fun _ s' => ∃ w, s.definitions.get? id = some w ∧ w.graph.defects = .ok [] ∧
      s.Redefines (s.definitions.set id { w with enabled := true }) s')
    fun _ s' => s' = s ∧ ∀ w, s.definitions.get? id = some w → w.graph.defects ≠ .ok [] := by
  have nothing (missing : s.definitions.get? id = none) (w : Workflow) (found : s.definitions.get? id = some w) :
      w.graph.defects ≠ .ok [] := by
    cases missing.symm.trans found
  refine Act.ensures_bind.mpr ((theWorkflow_spec kept id).mono ?_ fun _ _ failed => ⟨failed.1, nothing failed.2⟩)
  rintro w _ ⟨same, found⟩
  rw [same]
  refine Act.ensures_bind.mpr ((requireSound_spec w.graph).mono ?_ ?_)
  · rintro - _ ⟨same, sound⟩
    rw [same]
    refine (updateWorkflow_spec kept id (fun stored => { stored with enabled := true }) fun _ => rfl).mono ?_
      fun _ _ failed => ⟨failed.2.2, nothing failed.2.1⟩
    rintro _ s' ⟨old, present, -, redefines⟩
    cases found.symm.trans present
    exact ⟨w, found, sound, redefines⟩
  · rintro _ s' ⟨same, unsound⟩
    refine ⟨same, fun w' found' => ?_⟩
    cases found.symm.trans found'
    exact unsound

theorem enableWorkflow_edits (kept : s.InMemory) (id : String) :
    (enableWorkflow id).Ensures s (fun _ => Edits s) fun _ => Edits s := by
  refine (enableWorkflow_spec kept id).mono ?_ fun _ _ failed => .of_eq kept failed.1
  rintro _ s' ⟨w, -, sound, redefines⟩
  exact .of_set redefines fun _ => .inl sound

theorem disableWorkflow_spec (kept : s.InMemory) (id : String) : (disableWorkflow id).Ensures s
    (fun _ s' => ∃ w, s.definitions.get? id = some w ∧
      s.Redefines (s.definitions.set id { w with enabled := false }) s')
    fun _ s' => s' = s ∧ s.definitions.get? id = none := by
  refine Act.ensures_bind.mpr ((theWorkflow_spec kept id).mono ?_ fun _ _ failed => failed)
  rintro w _ ⟨same, found⟩
  rw [same]
  refine (updateWorkflow_spec kept id (fun stored => { stored with enabled := false }) fun _ => rfl).mono ?_
    fun _ _ failed => ⟨failed.2.2, failed.2.1⟩
  rintro _ s' ⟨old, present, -, redefines⟩
  exact ⟨old, present, redefines⟩

theorem disableWorkflow_edits (kept : s.InMemory) (id : String) :
    (disableWorkflow id).Ensures s (fun _ => Edits s) fun _ => Edits s := by
  refine (disableWorkflow_spec kept id).mono ?_ fun _ _ failed => .of_eq kept failed.1
  rintro _ s' ⟨w, -, redefines⟩
  exact .of_set redefines fun on => nomatch on

/-- A fresh identifier is drawn for a definition. -/
theorem draw_then_edits {α : Type} (kept : s.InMemory) {x : Fresh → Act Store α}
    (edits : ∀ fresh s', s'.InMemory → (x fresh).Ensures s' (fun _ => Edits s') fun _ => Edits s') :
    (draw >>= x).Ensures s (fun _ => Edits s) fun _ => Edits s := by
  refine Act.ensures_bind.mpr ((draw_spec kept).mono ?_ fun _ _ none => none.elim)
  rintro fresh s₁ ⟨-, -, reruns⟩
  have first := Edits.of_reruns reruns
  exact (edits fresh s₁ reruns.kept).mono (fun _ _ next => first.trans next) fun _ _ next => first.trans next

theorem readRecord_spec {α : Type} (kept : s.InMemory) (read : Fresh → Json → Reading α) (datum : Json) :
    (readRecord read datum).Ensures s (fun _ => s.Reruns s.runs) fun _ _ => False := by
  show s.Reruns s.runs (if Record.drawsId datum then { s with drawn := s.drawn + 1 } else s)
  split
  · exact ⟨⟨kept.kind, kept.runs, kept.definitions⟩, rfl, rfl, Nat.le_succ s.drawn⟩
  · exact kept.reruns

theorem createOfRecord_edits (kept : s.InMemory) (datum : Json) :
    (createOfRecord datum).Ensures s (fun _ => Edits s) fun _ => Edits s := by
  refine Act.ensures_bind.mpr (Act.ensures_bind.mpr ((readRecord_spec kept Workflow.ofRecord datum).mono ?_
    fun _ _ none => none.elim))
  intro reading s₁ reruns
  have first := Edits.of_reruns reruns
  cases reading with
  | issues => exact first
  | value w =>
    exact (createWorkflow_edits reruns.kept w).mono (fun _ _ next => first.trans next) fun _ _ next => first.trans next

theorem importWorkflow_edits (kept : s.InMemory) (document : Json) (name id : Option String) :
    (importWorkflow document name id).Ensures s (fun _ => Edits s) fun _ => Edits s := by
  refine Act.ensures_bind.mpr (Act.ensures_lift.mpr ⟨?_, fun _ _ => .refl kept⟩)
  intro g _
  cases id with
  | some id => exact reviseWorkflow_edits kept id _
  | none => exact draw_then_edits kept fun fresh s' kept' => createWorkflow_edits kept' _

theorem createFromTemplate_edits (kept : s.InMemory) (id : String) (name : Option String) :
    (createFromTemplate id name).Ensures s (fun _ => Edits s) fun _ => Edits s := by
  refine Act.ensures_bind.mpr (Act.ensures_lift.mpr ⟨?_, fun _ _ => .refl kept⟩)
  intro b _
  exact draw_then_edits kept fun fresh s' kept' => createWorkflow_edits kept' _

section Counts

variable {change : Workflow → Workflow}

/-- The definitions after one of them has been changed, if it is there. -/
def touched (id : String) (change : Workflow → Workflow) (definitions : Ordered Workflow) : Ordered Workflow :=
  match definitions.get? id with
  | none => definitions
  | some w => definitions.set id (change w)

theorem get?_touched (id : String) (change : Workflow → Workflow) (definitions : Ordered Workflow) (key : String) :
    (touched id change definitions).get? key =
      (definitions.get? key).map fun w => if key = id then change w else w := by
  unfold touched
  by_cases same : key = id
  · subst same
    cases found : definitions.get? key with
    | none => simp [found]
    | some w => simp [Ordered.get?_set_self]
  · cases found : definitions.get? id with
    | none => simp [same]
    | some w => simp [Ordered.get?_set_of_ne _ _ (Ne.symm same), same]

theorem touchWorkflow_spec (kept : s.InMemory) (id : String) (own : ∀ w, (change w).id = w.id) :
    (touchWorkflow id change).Ensures s (fun _ s' => s.Redefines (touched id change s.definitions) s')
      fun _ _ => False := by
  refine Act.ensures_bind.mpr ((workflow?_spec kept id).mono ?_ fun _ _ none => none)
  rintro found s₁ ⟨rfl, same⟩
  rw [same, touched]
  cases stored : s.definitions.get? id with
  | none => exact ⟨kept, rfl, rfl, le_refl _⟩
  | some w =>
    refine Act.ensures_bind.mpr ((updateWorkflow_spec kept id change own).mono ?_ ?_)
    · rintro _ s' ⟨old, present, -, redefines⟩
      cases stored.symm.trans present
      exact redefines
    · rintro _ s' ⟨-, missing, -⟩
      cases stored.symm.trans missing

/-- Counts are kept beside what a definition says. -/
theorem Edits.of_touched {key : String} (redefines : s.Redefines (touched key change s.definitions) s')
    (graph : ∀ w, (change w).graph = w.graph) (enabled : ∀ w, (change w).enabled = true → w.enabled = true) :
    Edits s s' where
  kept := redefines.kept
  runs := redefines.runs
  drawn := redefines.drawn
  sound other w' present on := by
    rw [redefines.definitions, get?_touched, Option.map_eq_some_iff] at present
    obtain ⟨w, stored, rfl⟩ := present
    refine .inr ⟨w, stored, ?_⟩
    split at on
    · rename_i same
      rw [if_pos same]
      exact ⟨enabled w on, (graph w).symm⟩
    · rename_i other
      rw [if_neg other]
      exact ⟨on, rfl⟩

end Counts

end TriggerFlow.Store
