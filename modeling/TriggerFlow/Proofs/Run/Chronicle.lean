import TriggerFlow.Proofs.Run.WellFormed

/-!
# The versions of a stored record

A ledger shows what is stored now. A chronicle also shows everything that has ever been stored, and which entries of
a log have been answered by a request to cancel. Any surroundings can be made to keep one, by noting beside their
state what each operation has written.

One version of a record gives way to the next only while the run lives, and along the moves that are allowed to a
run.
-/

namespace TriggerFlow.Run

variable {σ α : Type} {s : Surroundings σ}

/-- What a chronicle notes. -/
inductive Note where
  /-- A version of a record has been stored. -/
  | wrote (e : Execution)
  /-- An entry in the log of a run has been answered by a request to cancel that run. -/
  | heard (id : String)
  deriving DecidableEq, Repr

/-- The run whose record is noted as written. -/
def Note.version? (id : String) : Note → Option Execution
  | .wrote e => if e.id = id then some e else none
  | .heard _ => none

/-- What is noted when an entry has been stored with its record. -/
def notesOf (e : Execution) (entry : LogEntry) (asked : Bool) : List Note :=
  .wrote (logged e entry) :: if asked then [.heard e.id] else []

/-- A ledger with notes of all that has been stored, in order. -/
structure Chronicle (s : Surroundings σ) extends Ledger s where
  notes : σ → List Note
  load_notes : ∀ {w}, valid w → ∀ id, (s.load id).Ensures w
    (fun _ w' => notes w' = notes w) fun _ w' => notes w' = notes w
  save_notes : ∀ {w}, valid w → ∀ e, (s.save e).Ensures w
    (fun _ w' => notes w' = notes w ++ [.wrote e]) fun _ _ => True
  append_notes : ∀ {w}, valid w → ∀ id entry, (s.append id entry).Ensures w
    (fun asked w' => ∀ e, record w id = some e → notes w' = notes w ++ notesOf e entry asked)
    fun _ w' => notes w' = notes w
  waiting_notes : ∀ {w}, valid w → s.waiting.Ensures w
    (fun _ w' => notes w' = notes w) fun _ w' => notes w' = notes w
  respond_notes : ∀ {w}, valid w → ∀ sending, notes (s.respond sending w).2.2 = notes w
  suffer_notes : ∀ {w}, valid w → ∀ effect, (s.suffer effect).Ensures w
    (fun _ w' => notes w' = notes w) fun _ w' => notes w' = notes w

namespace Chronicle

variable (k : Chronicle s)

/-- The versions of a record that have been stored, in order. -/
def history (w : σ) (id : String) : List Execution := (k.notes w).filterMap (Note.version? id)

/-- How often an entry in the log of a run has been answered by a request to cancel it. -/
def heard (w : σ) (id : String) : Nat := (k.notes w).count (.heard id)

variable {k} {w w' : σ} {id : String}

theorem history_append {more : List Note} (noted : k.notes w' = k.notes w ++ more) (id : String) :
    k.history w' id = k.history w id ++ more.filterMap (Note.version? id) := by
  rw [history, noted, List.filterMap_append, history]

theorem history_same (noted : k.notes w' = k.notes w) (id : String) : k.history w' id = k.history w id := by
  rw [history, noted, history]

theorem heard_same (noted : k.notes w' = k.notes w) (id : String) : k.heard w' id = k.heard w id := by
  rw [heard, noted, heard]

end Chronicle

theorem versions_wrote (e : Execution) (id : String) :
    [Note.wrote e].filterMap (Note.version? id) = if id = e.id then [e] else [] := by
  by_cases own : id = e.id
  · have version : Note.version? id (.wrote e) = some e := if_pos own.symm
    rw [if_pos own, List.filterMap_cons_some version, List.filterMap_nil]
  · have version : Note.version? id (.wrote e) = none := if_neg (Ne.symm own)
    rw [if_neg own, List.filterMap_cons_none version, List.filterMap_nil]

theorem versions_notesOf (e : Execution) (entry : LogEntry) (asked : Bool) :
    (notesOf e entry asked).filterMap (Note.version? e.id) = [logged e entry] := by
  have own : (logged e entry).id = e.id := rfl
  cases asked <;> simp [notesOf, own, Note.version?]

theorem versions_notesOf_of_ne {e : Execution} {id : String} (ne : e.id ≠ id) (entry : LogEntry) (asked : Bool) :
    (notesOf e entry asked).filterMap (Note.version? id) = [] := by
  have own : (logged e entry).id = e.id := rfl
  cases asked <;> simp [notesOf, own, ne, Note.version?]

section Noting

/-- A computation on the surroundings about which nothing is noted. -/
def unnoted (x : Act σ α) : Act (σ × List Note) α := x.onPart Prod.fst fun w p => (w, p.2)

theorem ensures_unnoted {x : Act σ α} {p : σ × List Note} {good : α → σ × List Note → Prop}
    {bad : Failure → σ × List Note → Prop} : (unnoted x).Ensures p good bad ↔
      x.Ensures p.1 (fun a w => good a (w, p.2)) fun f w => bad f (w, p.2) := Act.ensures_onPart

/-- Surroundings that note beside their state what is stored; `record` tells what is stored there. -/
def Surroundings.noting (s : Surroundings σ) (record : σ → String → Option Execution) :
    Surroundings (σ × List Note) where
  now w := s.now w.1
  load id := unnoted (s.load id)
  save e := fun p =>
    let r := s.save e p.1
    (r.1, r.2, p.2 ++ [.wrote e])
  append id entry := fun p =>
    match s.append id entry p.1 with
    | (.ok asked, w) => (.ok asked, w, p.2 ++ ((record p.1 id).map fun e => notesOf e entry asked).getD [])
    | (.error failure, w) => (.error failure, w, p.2)
  waiting := unnoted s.waiting
  respond sending p :=
    let r := s.respond sending p.1
    (r.1, r.2.1, r.2.2, p.2)
  suffer effect := unnoted (s.suffer effect)

theorem Surroundings.Spares.noting {id : String} (spares : s.Spares id)
    (record : σ → String → Option Execution) : (s.noting record).Spares id :=
  fun sending p => spares sending p.1

/-- The books of noting surroundings are those of the surroundings. -/
def Books.noting (b : Books σ) : Books (σ × List Note) where
  valid p := b.valid p.1
  record p := b.record p.1
  sent p := b.sent p.1
  drift p p' := b.drift p.1 p'.1

theorem Books.Same.noting {b : Books σ} {p : σ × List Note} {w : σ} (same : b.Same p.1 w) (notes : List Note) :
    b.noting.Same p (w, notes) := ⟨same.valid, same.record, same.sent, same.drift⟩

theorem Books.Becomes.noting {b : Books σ} {p : σ × List Note} {w : σ} {records : String → Option Execution}
    (becomes : b.Becomes p.1 records w) (notes : List Note) : b.noting.Becomes p records (w, notes) :=
  ⟨becomes.valid, becomes.record, becomes.sent, becomes.drift⟩

/-- Noting surroundings promise what the surroundings promise. -/
def Ledger.noting (k : Ledger s) : Ledger (s.noting k.record) where
  toBooks := k.toBooks.noting
  drift_refl p := k.drift_refl p.1
  drift_trans d d' := k.drift_trans d d'
  id_of_record valid found := k.id_of_record valid found
  load valid id := ensures_unnoted.mpr
    ((k.load valid id).mono (fun _ _ loaded => ⟨loaded.1, loaded.2.noting _⟩) fun _ _ none => none.elim)
  save {p} valid e := by
    have saved := k.save valid e
    unfold Act.Ensures at saved ⊢
    simp only [Surroundings.noting]
    rcases run : s.save e p.1 with ⟨failure | done, w⟩ <;> rw [run] at saved
    · exact saved
    · exact saved.noting _
  append {p} valid id entry := by
    have appended := k.append valid id entry
    unfold Act.Ensures at appended ⊢
    simp only [Surroundings.noting]
    rcases run : s.append id entry p.1 with ⟨failure | asked, w⟩ <;> rw [run] at appended
    · exact ⟨appended.1, appended.2.1, appended.2.2.noting _⟩
    · obtain ⟨e, stored, becomes⟩ := appended
      exact ⟨e, stored, becomes.noting _⟩
  waiting valid := ensures_unnoted.mpr ((k.waiting valid).mono
    (fun _ _ found => ⟨found.1.noting _, found.2⟩) fun _ _ same => same.noting _)
  respond valid sending := k.respond valid sending
  suffer valid effect := ensures_unnoted.mpr ((k.suffer valid effect).mono
    (fun _ _ becomes => becomes.noting _) fun _ _ same => same.noting _)

/-- What noting surroundings note is a chronicle. -/
def Ledger.chronicle (k : Ledger s) : Chronicle (s.noting k.record) where
  toLedger := k.noting
  notes p := p.2
  load_notes {p} _ id := ensures_unnoted.mpr ((Act.Ensures.run _ p.1).mono (fun _ _ _ => rfl) fun _ _ _ => rfl)
  save_notes {p} _ e := by
    unfold Act.Ensures
    simp only [Surroundings.noting]
    rcases s.save e p.1 with ⟨failure | done, w⟩
    · trivial
    · rfl
  append_notes {p} _ id entry := by
    unfold Act.Ensures
    simp only [Surroundings.noting]
    rcases s.append id entry p.1 with ⟨failure | asked, w⟩
    · rfl
    · intro e stored
      have known : k.record p.1 id = some e := stored
      simp [known]
  waiting_notes {p} _ := ensures_unnoted.mpr
    ((Act.Ensures.run _ p.1).mono (fun _ _ _ => rfl) fun _ _ _ => rfl)
  respond_notes _ sending := rfl
  suffer_notes {p} _ effect := ensures_unnoted.mpr
    ((Act.Ensures.run _ p.1).mono (fun _ _ _ => rfl) fun _ _ _ => rfl)

end Noting

/-- What may be stored of a run next: its stored record lives, and leads to the new one by allowed moves; where there is
none, the new one has begun. If the run is driven by a record that makes sense, the new one makes sense. -/
structure Proper (sound : Prop) (r : Option Execution) (e : Execution) : Prop where
  begun : r = none → e.status ≠ .pending
  lives : ∀ a, r = some a → a.isTerminal = false
  path : ∀ a, r = some a → Status.LeadsTo a.status e.status
  wellFormed : sound → (∀ a, r = some a → a.WellFormed) → e.WellFormed

/-- The versions of a record that come between what was stored and what is stored now. -/
inductive Written (spared sound : Prop) : Option Execution → List Execution → Option Execution → Prop
  | done (r : Option Execution) : Written spared sound r [] r
  | lost {r r' : Option Execution} {new : List Execution} (unspared : ¬ spared)
      (rest : Written spared sound none new r') : Written spared sound r new r'
  | write {r r' : Option Execution} {e : Execution} {new : List Execution} (proper : Proper sound r e)
      (rest : Written spared sound (some e) new r') : Written spared sound r (e :: new) r'

namespace Written

variable {spared sound : Prop} {r r' r'' : Option Execution} {new more : List Execution} {e : Execution}

theorem trans (h : Written spared sound r new r') (h' : Written spared sound r' more r'') :
    Written spared sound r (new ++ more) r'' := by
  induction h with
  | done => exact h'
  | lost unspared _ ih => exact .lost unspared (ih h')
  | write proper _ ih => exact .write proper (ih h')

theorem single (proper : Proper sound r e) : Written spared sound r [e] (some e) := .write proper (.done _)

/-- A run that has ended is not written any more, unless its record is lost. -/
theorem eq_of_isTerminal (spares : spared) (written : Written spared sound (some e) new r') (ended : e.isTerminal) :
    new = [] ∧ r' = some e := by
  cases written with
  | done => exact ⟨rfl, rfl⟩
  | lost unspared => exact absurd spares unspared
  | write proper rest =>
    have lives := proper.lives e rfl
    rw [ended] at lives
    cases lives

/-- Where the record and the one that drives the run make sense, so do all versions. -/
theorem wellFormed (written : Written spared sound r new r') (driver : sound)
    (first : ∀ a, r = some a → a.WellFormed) :
    (∀ v ∈ new, v.WellFormed) ∧ ∀ a, r' = some a → a.WellFormed := by
  induction written with
  | done => exact ⟨List.forall_mem_nil _, first⟩
  | lost unspared _ ih => exact ih (by simp)
  | @write r r' e new proper rest ih =>
    have sense := proper.wellFormed driver first
    obtain ⟨later, last⟩ := ih fun a same => Option.some.inj same ▸ sense
    refine ⟨?_, last⟩
    intro v mem
    rcases List.mem_cons.mp mem with same | mem
    · exact same ▸ sense
    · exact later v mem

/-- A record that is not lost is still there. -/
theorem kept (spares : spared) (written : Written spared sound r new r') (present : r ≠ none) : r' ≠ none := by
  induction written with
  | done => exact present
  | lost unspared => exact absurd spares unspared
  | write _ _ ih => exact ih (by simp)

/-- Nothing is stored as pending but what has been pending before. -/
theorem pending (written : Written spared sound r new r') {e' : Execution} (last : r' = some e')
    (pending : e'.status = .pending) : ∃ e, r = some e ∧ e.status = .pending := by
  induction written with
  | done => exact ⟨e', last, pending⟩
  | lost _ _ ih =>
    obtain ⟨e, none, -⟩ := ih last
    cases none
  | @write r r' e new proper rest ih =>
    obtain ⟨same, first, was⟩ := ih last
    rw [← Option.some.inj first] at was
    cases r with
    | none => exact absurd was (proper.begun rfl)
    | some a =>
      have path := proper.path a rfl
      rw [was] at path
      exact ⟨a, rfl, path.eq_pending⟩

theorem mono {sound' : Prop} (weaker : sound' → sound) (written : Written spared sound r new r') :
    Written spared sound' r new r' := by
  induction written with
  | done => exact .done _
  | lost unspared _ ih => exact .lost unspared ih
  | write proper _ ih =>
    exact .write ⟨proper.begun, proper.lives, proper.path, fun driver => proper.wellFormed (weaker driver)⟩ ih

end Written

end TriggerFlow.Run
