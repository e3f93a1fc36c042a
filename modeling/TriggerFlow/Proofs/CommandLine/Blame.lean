import TriggerFlow.Proofs.CommandLine.Lenient

/-!
# What is refused for a defect

The check of a graph fails with its first defect. To enable a workflow, to run it and to replace the graph of an enabled
one fail for a defect exactly if the graph in question has one. What is refused so, or for want of what it names, has
changed no file.
-/

namespace TriggerFlow

open Act (Lenient)

/-- The first thing that is wrong with a graph. -/
def Graph.Fails (g : Graph) (d : Defect) : Prop := ∃ more, g.defects = .ok (d :: more)

namespace Act

variable {S α β : Type}

theorem of_lift_run {ε : Type} {wrap : ε → Failure} {r : Except ε α} {s t : S} {a : α}
    (run : lift wrap r s = (.ok a, t)) : r = .ok a ∧ t = s := by
  cases r <;> cases run
  exact ⟨rfl, rfl⟩

/-- A computation comes to values of one kind, and fails for a defect only with one of another. -/
def Yields (good : α → Prop) (blame : Defect → Prop) (x : Act S α) (s : S) : Prop :=
  x.Ensures s (fun a _ => good a) fun failure _ => ∀ d, failure = .defect d → blame d

section Yields

variable {good : α → Prop} {blame blame' : Defect → Prop} {x : Act S α} {s : S}

theorem Lenient.yields (lenient : Lenient x) : Yields (fun _ => True) blame x s :=
  (lenient.ensures s).mono (fun _ _ _ => trivial) fun _ _ other d same => absurd same (other d)

namespace Yields

theorem pure {a : α} (holds : good a) : Yields good blame (Pure.pure a : Act S α) s := holds

theorem fail {failure : Failure} (other : ∀ d, failure ≠ .defect d) :
    Yields good blame (Act.fail failure : Act S α) s :=
  fun d same => absurd same (other d)

theorem mono (yields : Yields good blame x s) (wider : ∀ d, blame d → blame' d) : Yields good blame' x s :=
  Ensures.mono yields (fun _ _ holds => holds) fun _ _ blames d same => wider d (blames d same)

theorem bind {f : α → Act S β} {good' : β → Prop} (first : Yields good blame x s)
    (rest : ∀ a t, good a → Yields good' blame (f a) t) : Yields good' blame (x >>= f) s :=
  ensures_bind.mpr (Ensures.mono first (fun a t holds => rest a t holds) fun _ _ blames => blames)

/-- What goes before does not look for defects. -/
theorem after {f : α → Act S β} {good' : β → Prop} (lenient : Lenient x)
    (rest : ∀ a t, x s = (.ok a, t) → Yields good' blame (f a) t) : Yields good' blame (x >>= f) s :=
  ensures_bind.mpr (((Ensures.run x s).and (lenient.ensures s)).mono (fun a t run => rest a t run.1)
    fun _ _ other d same => absurd same (other.2 d))

theorem map {f : α → β} {good' : β → Prop} (lenient : Lenient x) (holds : ∀ a, good' (f a)) :
    Yields good' blame (f <$> x) s := by
  rw [map_eq_pure_bind]
  exact .after lenient fun a _ _ => .pure (holds a)

end Yields

end Yields

/-- A computation fails, and the files are as they were. -/
def Halts (files : S → Folder) (x : Act S α) (s : S) (failure : Failure) : Prop :=
  ∃ t, x s = (.error failure, t) ∧ files t = files s

namespace Halts

variable {files : S → Folder} {x : Act S α} {s t : S} {failure : Failure}

theorem fail (s : S) (failure : Failure) : Halts files (Act.fail failure : Act S α) s failure := ⟨s, rfl, rfl⟩

theorem of_run {y : Act S α} (halts : Halts files y s failure) (same : x s = y s) : Halts files x s failure := by
  obtain ⟨t, run, still⟩ := halts
  exact ⟨t, same.trans run, still⟩

theorem bind (halts : Halts files x s failure) (f : α → Act S β) : Halts files (x >>= f) s failure := by
  obtain ⟨t, run, same⟩ := halts
  exact ⟨t, bind_run_error run f, same⟩

theorem map (halts : Halts files x s failure) (f : α → β) : Halts files (f <$> x) s failure := by
  rw [map_eq_pure_bind]
  exact halts.bind _

theorem after {a : α} {f : α → Act S β} (run : x s = (.ok a, t)) (same : files t = files s)
    (halts : Halts files (f a) t failure) : Halts files (x >>= f) s failure := by
  obtain ⟨u, rest, still⟩ := halts
  exact ⟨u, (bind_run_ok run f).trans rest, still.trans same⟩

end Halts

end Act

open Act (Yields Halts)

namespace Launcher

theorem requireSound_yields {S : Type} {s : S} (g : Graph) :
    Yields (fun _ => True) g.Fails (requireSound g) s := by
  refine Act.ensures_bind.mpr (Act.ensures_lift.mpr ⟨fun found checked => ?_, fun fault _ => by simp⟩)
  cases found with
  | nil => exact trivial
  | cons d more =>
    intro other same
    cases same
    exact ⟨more, checked⟩

theorem requireSound_halts {S : Type} {files : S → Folder} {s : S} {g : Graph} {d : Defect} (fails : g.Fails d) :
    Halts files (requireSound g) s (.defect d) := by
  obtain ⟨more, checked⟩ := fails
  refine .after (t := s) (a := d :: more) ?_ rfl (.fail s _)
  rw [checked]
  rfl

end Launcher

namespace Store

variable {s t : Store} {id : String} {w : Workflow} {d : Defect}

theorem Spent.files (spent : Spent s t) : t.folder = s.folder ∧ t.now = s.now := by
  obtain ⟨n, rfl⟩ := spent
  exact ⟨rfl, rfl⟩

theorem theWorkflow_ok (run : theWorkflow id s = (.ok w, t)) : (workflow? id s).1 = .ok (some w) := by
  rw [theWorkflow, Act.bind_apply] at run
  rcases found : workflow? id s with ⟨_ | _ | v, u⟩ <;> rw [found] at run <;> cases run
  rfl

theorem theWorkflow_found (found : (workflow? id s).1 = .ok (some w)) :
    ∃ t, theWorkflow id s = (.ok w, t) ∧ t.folder = s.folder ∧ t.now = s.now := by
  have spent : Spent s (workflow? id s).2 := workflow?_looks id s s (.refl s)
  exact ⟨(workflow? id s).2, Act.bind_run_ok (Prod.ext found rfl) _, spent.files⟩

theorem theWorkflow_halts (none : (workflow? id s).1 = .ok none) :
    Halts folder (theWorkflow id) s (.workflowMissing id) := by
  have spent : Spent s (workflow? id s).2 := workflow?_looks id s s (.refl s)
  exact .after (Prod.ext none rfl) spent.files.1 (.fail _ _)

theorem execution?_looks (id : String) : Looks (execution? id) := fun _ =>
  .bind (.ask _) fun keeping => match keeping with
    | .memory _ => .pure _
    | .files _ => .bind (.ask _) fun text => by
      split
      · exact .pure _
      · exact (readRecord_preserves Spent.drawing _ _).map

theorem theExecution_halts (none : (execution? id s).1 = .ok none) :
    Halts folder (theExecution id) s (.executionMissing id) := by
  have spent : Spent s (execution? id s).2 := execution?_looks id s s (.refl s)
  exact .after (Prod.ext none rfl) spent.files.1 (.fail _ _)

theorem enableWorkflow_yields (id : String) (s : Store) : Yields (fun _ => True)
    (fun d => ∃ w, (workflow? id s).1 = .ok (some w) ∧ w.graph.Fails d) (enableWorkflow id) s := by
  refine .after (theWorkflow_lenient id) fun w t run => ?_
  refine .bind ((Launcher.requireSound_yields w.graph).mono ?_) fun _ u _ => (updateWorkflow_lenient id _).yields
  exact fun d fails => ⟨w, theWorkflow_ok run, fails⟩

theorem enableWorkflow_halts (found : (workflow? id s).1 = .ok (some w)) (fails : w.graph.Fails d) :
    Halts folder (enableWorkflow id) s (.defect d) := by
  obtain ⟨t, run, same, -⟩ := theWorkflow_found found
  exact .after run same ((Launcher.requireSound_halts fails).bind _)

theorem requireSoundIfEnabled_yields (w : Workflow) : Yields (fun _ => True)
    (fun d => w.enabled = true ∧ w.graph.Fails d) (requireSoundIfEnabled w) s := by
  unfold requireSoundIfEnabled
  split
  · rename_i enabled
    exact (Launcher.requireSound_yields w.graph).mono fun d fails => ⟨enabled, fails⟩
  · exact .pure trivial

/-- An edit of an enabled workflow is refused for a defect of what it would come to. -/
theorem reviseWorkflow_yields (id : String) (edit : Edit) (s : Store) : Yields (fun _ => True)
    (fun d => ∃ w, (workflow? id s).1 = .ok (some w) ∧ w.enabled = true ∧ (edit.apply s.now w).graph.Fails d)
    (reviseWorkflow id (.value edit)) s := by
  refine .after (theWorkflow_lenient id) fun w t run => .after (.ask _) fun now u _ => ?_
  refine .bind ((requireSoundIfEnabled_yields (edit.apply now w)).mono ?_) fun _ v _ => ?_
  · exact fun d ⟨enabled, fails⟩ => ⟨w, theWorkflow_ok run, enabled, fails⟩
  · exact .after (saveWorkflow_lenient _) fun _ _ _ => .pure trivial

theorem reviseWorkflow_halts {edit : Edit} (found : (workflow? id s).1 = .ok (some w)) (enabled : w.enabled = true)
    (fails : (edit.apply s.now w).graph.Fails d) : Halts folder (reviseWorkflow id (.value edit)) s (.defect d) := by
  obtain ⟨t, run, same, now⟩ := theWorkflow_found found
  refine .after run same (.after (t := t) (a := s.now) (by rw [← now]; rfl) rfl ?_)
  have checked : requireSoundIfEnabled (edit.apply s.now w) = Launcher.requireSound (edit.apply s.now w).graph :=
    if_pos enabled
  dsimp only
  rw [checked]
  exact (Launcher.requireSound_halts fails).bind _

end Store

namespace Automation

variable {δ α : Type} {setup : Setup δ} {a : Automation δ} {id : String} {d : Defect}

/-- The files of the system. -/
def files (a : Automation δ) : Folder := a.store.folder

theorem inStore_run (x : Act Store α) (a : Automation δ) :
    inStore x a = ((x a.store).1, a.withStore (x a.store).2) := rfl

theorem inStore_yields {good : α → Prop} {blame : Defect → Prop} {x : Act Store α}
    (yields : Yields good blame x a.store) : Yields good blame (inStore x) a := ensures_inStore.mpr yields

theorem inStore_halts {x : Act Store α} {failure : Failure} (halts : Halts Store.folder x a.store failure) :
    Halts files (inStore x) a failure := by
  obtain ⟨s, run, same⟩ := halts
  exact ⟨a.withStore s, by rw [inStore_run, run], same⟩

variable (setup a id) (payload : Members)

theorem run_yields : Yields (fun _ => True)
    (fun d => ∃ w, (Store.workflow? id a.store).1 = .ok (some w) ∧ w.enabled = true ∧ w.graph.Fails d)
    (run setup id payload) a := by
  refine .after (inStore_lenient (Store.workflow?_lenient id)) fun found b looked => ?_
  have stored : (Store.workflow? id a.store).1 = .ok found := congrArg Prod.fst looked
  cases found with
  | none => exact .fail (by simp)
  | some w =>
    dsimp only
    split
    · exact .fail (by simp)
    · rename_i offered
      have enabled : w.enabled = true := by simpa using offered
      refine .bind ((Launcher.requireSound_yields w.graph).mono ?_) fun _ c _ => (launch_lenient setup w .manual _).yields
      exact fun d fails => ⟨w, stored, enabled, fails⟩

theorem workflow?_run {found : Option Workflow} (stored : (Store.workflow? id a.store).1 = .ok found) :
    ∃ b, inStore (Store.workflow? id) a = (.ok found, b) ∧ files b = files a := by
  have spent : Store.Spent a.store (Store.workflow? id a.store).2 := Store.workflow?_looks id _ _ (.refl _)
  exact ⟨a.withStore (Store.workflow? id a.store).2, Prod.ext stored rfl, spent.files.1⟩

theorem run_refuses {w : Workflow} (stored : (Store.workflow? id a.store).1 = .ok (some w)) (enabled : w.enabled = true)
    (fails : w.graph.Fails d) : Halts files (run setup id payload) a (.defect d) := by
  obtain ⟨b, looked, same⟩ := workflow?_run a id stored
  refine .after looked same ?_
  simp only [enabled, Bool.not_true, Bool.false_eq_true, if_false]
  exact (Launcher.requireSound_halts fails).bind _

theorem run_misses (missing : (Store.workflow? id a.store).1 = .ok none) :
    Halts files (run setup id payload) a (.workflowMissing id) := by
  obtain ⟨b, looked, same⟩ := workflow?_run a id missing
  exact .after looked same (.fail _ _)

end Automation

end TriggerFlow
