import TriggerFlow.Proofs.Run.Apart

/-!
# What runs find

A drive of a run asks its surroundings for the time, for the stored record of the run and for answers to its actions. If
they keep what concerns one run apart from what concerns the others, they can be alike for one run and not for another.
Surroundings in which each run has a cell of its own do so while the clock stands still, if the answers depend on
nothing but what is sent out, and if nothing happens meanwhile but that identifiers are used up. The records of a ledger
are such cells.
-/

namespace TriggerFlow.Run

variable {σ : Type} {s : Surroundings σ} {id : String}

/-- Surroundings that keep what concerns one run apart from what concerns the others. Worlds that are alike for a run
answer it the same and stay alike for it, whatever it asks. What one run asks leaves the world alike for the others, and
so does what happens while an action runs. -/
structure Surroundings.Separate (s : Surroundings σ) where
  alike : String → σ → σ → Prop
  symm : ∀ {id w v}, alike id w v → alike id v w
  trans : ∀ {id w v u}, alike id w v → alike id v u → alike id w u
  now : ∀ {id w v}, alike id w v → s.now w = s.now v
  load : ∀ id, (s.load id).Respects (alike id)
  save : ∀ e, (s.save e).Respects (alike e.id)
  append : ∀ id entry, (s.append id entry).Respects (alike id)
  answer : ∀ {sending w v}, alike sending.runId w v → (s.respond sending w).2.1 = (s.respond sending v).2.1
  respond : ∀ {id w}, alike id w w → ∀ sending, alike id w (s.respond sending w).2.2
  quiet : s.Harmless
  suffer : ∀ {effect id w}, s.Causes effect → alike id w w →
    (s.suffer effect w).1 = .ok () ∧ alike id w (s.suffer effect w).2
  loadAside : ∀ {id other w}, alike other w w → other ≠ id → alike other w (s.load id w).2
  saveAside : ∀ {e : Execution} {other w}, alike other w w → other ≠ e.id → alike other w (s.save e w).2
  appendAside : ∀ {id entry other w}, alike other w w → other ≠ id → alike other w (s.append id entry w).2

namespace Surroundings.Separate

variable (k : s.Separate) {id : String}

/-- Two desks at which a run finds the same. -/
structure Same (id : String) (d d' : Desk σ) : Prop where
  world : k.alike id d.world d'.world
  asked : id ∈ d.cancels ↔ id ∈ d'.cancels
  driven : id ∈ d.active ↔ id ∈ d'.active

variable {k}

namespace Same

variable {d d' d'' : Desk σ}

theorem symm (same : k.Same id d d') : k.Same id d' d := ⟨k.symm same.world, same.asked.symm, same.driven.symm⟩

theorem trans (same : k.Same id d d') (same' : k.Same id d' d'') : k.Same id d d'' :=
  ⟨k.trans same.world same'.world, same.asked.trans same'.asked, same.driven.trans same'.driven⟩

theorem left (same : k.Same id d d') : k.Same id d d := same.trans same.symm

theorem right (same : k.Same id d d') : k.Same id d' d' := same.symm.trans same

theorem of_world {w : σ} (world : k.alike id d.world w) : k.Same id d { d with world := w } := ⟨world, Iff.rfl, Iff.rfl⟩

end Same

end Surroundings.Separate

/-- The clock stands where it stood, and the cells hold what is told. -/
structure Surroundings.Rewritten {κ : Type} (s : Surroundings σ) (valid : σ → Prop) (cell : σ → String → κ) (w : σ)
    (cells : String → κ) (w' : σ) : Prop where
  valid : valid w'
  now : s.now w' = s.now w
  cells : cell w' = cells

/-- Surroundings in which each run has a cell, out of which its record is read and into which it is written. The clock
stands still, and actions are answered by what is sent out. While they run nothing happens to the cells, and no entry in
a log asks for a run to be cancelled. -/
structure Surroundings.Cells (s : Surroundings σ) (κ : Type) where
  valid : σ → Prop
  cell : σ → String → κ
  read : Instant → κ → Option Execution
  write : Execution → κ
  load : ∀ {w}, valid w → ∀ id, (s.load id w).1 = .ok (read (s.now w) (cell w id)) ∧
    s.Rewritten valid cell w (cell w) (s.load id w).2
  save : ∀ {w}, valid w → ∀ e, (s.save e w).1 = .ok () ∧
    s.Rewritten valid cell w (Function.update (cell w) e.id (write e)) (s.save e w).2
  /-- An entry is added to the record if there is one. -/
  append : ∀ {w}, valid w → ∀ id entry,
    (s.append id entry w).1 =
      (read (s.now w) (cell w id)).elim (.error (.executionMissing id)) (fun _ => .ok false) ∧
    s.Rewritten valid cell w (Function.update (cell w) id
      ((read (s.now w) (cell w id)).elim (cell w id) fun e => write (logged e entry))) (s.append id entry w).2
  answer : ∀ sending w v, (s.respond sending w).2.1 = (s.respond sending v).2.1
  respond : ∀ {w}, valid w → ∀ sending, s.Rewritten valid cell w (cell w) (s.respond sending w).2.2
  quiet : s.Harmless
  suffer : ∀ {effect w}, s.Causes effect → valid w →
    (s.suffer effect w).1 = .ok () ∧ s.Rewritten valid cell w (cell w) (s.suffer effect w).2

namespace Surroundings.Cells

variable {κ : Type} (c : s.Cells κ) {w v : σ}

/-- Two worlds with the same time and the same in the cell of a run. -/
structure Alike (id : String) (w v : σ) : Prop where
  left : c.valid w
  right : c.valid v
  now : s.now w = s.now v
  cell : c.cell w id = c.cell v id

variable {c}

theorem Alike.rewritten {cells cells' : String → κ} {w' v' : σ} (alike : c.Alike id w v)
    (left : s.Rewritten c.valid c.cell w cells w') (right : s.Rewritten c.valid c.cell v cells' v')
    (same : cells id = cells' id) : c.Alike id w' v' :=
  ⟨left.valid, right.valid, left.now.trans (alike.now.trans right.now.symm), by rw [left.cells, right.cells, same]⟩

theorem Alike.aside {cells : String → κ} {w' : σ} (alike : c.Alike id w w)
    (rewritten : s.Rewritten c.valid c.cell w cells w') (same : cells id = c.cell w id) : c.Alike id w w' :=
  ⟨alike.left, rewritten.valid, rewritten.now.symm, by rw [rewritten.cells, same]⟩

variable (c)

/-- Cells keep what concerns one run apart from what concerns the others. -/
def separate : s.Separate where
  alike := c.Alike
  symm alike := ⟨alike.right, alike.left, alike.now.symm, alike.cell.symm⟩
  trans alike alike' := ⟨alike.left, alike'.right, alike.now.trans alike'.now, alike.cell.trans alike'.cell⟩
  now alike := alike.now
  load id w v alike := by
    obtain ⟨found, after⟩ := c.load alike.left id
    obtain ⟨found', after'⟩ := c.load alike.right id
    exact ⟨by rw [found, found', alike.now, alike.cell], alike.rewritten after after' alike.cell⟩
  save e w v alike := by
    obtain ⟨done, after⟩ := c.save alike.left e
    obtain ⟨done', after'⟩ := c.save alike.right e
    refine ⟨done.trans done'.symm, alike.rewritten after after' ?_⟩
    rw [Function.update_self, Function.update_self]
  append id entry w v alike := by
    obtain ⟨done, after⟩ := c.append alike.left id entry
    obtain ⟨done', after'⟩ := c.append alike.right id entry
    refine ⟨by rw [done, done', alike.now, alike.cell], alike.rewritten after after' ?_⟩
    rw [Function.update_self, Function.update_self, alike.now, alike.cell]
  answer _ := c.answer _ _ _
  respond alike sending := alike.aside (c.respond alike.left sending) rfl
  quiet := c.quiet
  suffer caused alike :=
    ⟨(c.suffer caused alike.left).1, alike.aside (c.suffer caused alike.left).2 rfl⟩
  loadAside alike _ := alike.aside (c.load alike.left _).2 rfl
  saveAside alike ne := alike.aside (c.save alike.left _).2 (Function.update_of_ne ne _ _)
  appendAside alike ne := alike.aside (c.append alike.left _ _).2 (Function.update_of_ne ne _ _)

end Surroundings.Cells

/-- The clock stands still, and actions are answered by what is sent out. While they run nothing happens to the runs,
and no entry in a log asks for one to be cancelled. -/
structure Surroundings.Still (s : Surroundings σ) : Prop where
  load : ∀ id time, (s.load id).Preserves fun w => s.now w = time
  save : ∀ e time, (s.save e).Preserves fun w => s.now w = time
  append : ∀ id entry time, (s.append id entry).Preserves fun w => s.now w = time
  respond : ∀ sending w, s.now (s.respond sending w).2.2 = s.now w
  suffer : ∀ {effect}, s.Causes effect → ∀ w, (s.suffer effect w).1 = .ok () ∧ s.now (s.suffer effect w).2 = s.now w
  answer : ∀ sending w v, (s.respond sending w).2.1 = (s.respond sending v).2.1
  quiet : s.Harmless
  discreet : ∀ id, s.Discreet id

/-- The records of a ledger are cells. -/
def Ledger.cells (k : Ledger s) (still : s.Still) : s.Cells (Option Execution) where
  valid := k.valid
  cell := k.record
  read _ record := record
  write := some
  load {w} valid id := by
    refine Act.Ensures.answer (((k.load valid id).and ((still.load id (s.now w)).ensures rfl)).mono ?_
      fun _ _ none => none.1.elim)
    rintro _ w' ⟨⟨rfl, same⟩, now⟩
    exact ⟨rfl, same.valid, now, same.record⟩
  save {w} valid e := by
    refine Act.Ensures.answer (((k.save valid e).and ((still.save e (s.now w)).ensures rfl)).mono ?_
      fun _ _ none => none.1.elim)
    rintro _ w' ⟨becomes, now⟩
    exact ⟨rfl, becomes.valid, now, becomes.record⟩
  append {w} valid id entry := by
    refine Act.Ensures.answer ((((k.append valid id entry).and ((still.append id entry (s.now w)).ensures rfl)).and
      (Act.Ensures.run _ w)).mono ?_ ?_)
    · rintro flag w' ⟨⟨⟨e, present, becomes⟩, now⟩, run⟩
      have unflagged := still.discreet id entry w
      rw [run] at unflagged
      rw [present]
      refine ⟨?_, becomes.valid, now, becomes.record⟩
      cases flag
      · rfl
      · exact absurd rfl unflagged
    · rintro _ w' ⟨⟨⟨rfl, missing, same⟩, now⟩, -⟩
      rw [missing]
      refine ⟨rfl, same.valid, now, same.record.trans ?_⟩
      rw [Option.elim_none, ← missing, Function.update_eq_self]
  answer := still.answer
  respond {w} valid sending := by
    obtain ⟨after, record, -⟩ := k.respond valid sending
    exact ⟨after, still.respond sending w, record⟩
  quiet := still.quiet
  suffer {effect w} caused valid := by
    obtain ⟨done, now⟩ := still.suffer caused w
    have records : afterEffect (k.record w) effect = k.record w := by
      have quiet := still.quiet effect caused
      cases effect with
      | forget => cases quiet
      | _ => rfl
    have same : k.Same w (s.suffer effect w).2 := (k.suffer_same valid records).state
    exact ⟨done, same.valid, now, same.record⟩

end TriggerFlow.Run
