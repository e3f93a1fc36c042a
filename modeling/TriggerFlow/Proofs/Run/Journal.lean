import TriggerFlow.Proofs.Run.Frame
import TriggerFlow.Proofs.Run.Gathering
import TriggerFlow.Proofs.Run.Tally

/-!
# Every entry is stored once

A journal shows which entries have been added to the logs of stored records, one by one. Any ledger can keep one, by
jotting them down beside its state. As long as the stored record of a run is not lost, the log of the copy in hand and
the journal grow by the same entries, whatever the drive comes to.
-/

namespace TriggerFlow.Run

variable {σ α : Type} {s : Surroundings σ}

/-- An operation on the surroundings that adds no entry to a log, whether it fails or not. -/
def Entryless (entries : σ → String → List LogEntry) (x : Act σ α) : Prop :=
  ∀ w, x.Ensures w (fun _ w' => entries w' = entries w) fun _ w' => entries w' = entries w

/-- A chronicle that also shows which entries have been added to the log of each run. -/
structure Journal (s : Surroundings σ) extends Chronicle s where
  entries : σ → String → List LogEntry
  load_entries : ∀ id, Entryless entries (s.load id)
  save_entries : ∀ e, Entryless entries (s.save e)
  append_entries : ∀ id entry w, (s.append id entry).Ensures w
    (fun _ w' => entries w' = Function.update (entries w) id (entries w id ++ [entry]))
    fun _ w' => entries w' = entries w
  suffer_entries : ∀ effect, Entryless entries (s.suffer effect)
  respond_entries : ∀ sending w, entries (s.respond sending w).2.2 = entries w

section Jotting

theorem ensures_unjotted {x : Act σ α} {p : σ × List Jot} {good : α → σ × List Jot → Prop}
    {bad : Failure → σ × List Jot → Prop} : (unjotted x).Ensures p good bad ↔
      x.Ensures p.1 (fun a w => good a (w, p.2)) fun f w => bad f (w, p.2) := Act.ensures_onPart

/-- The books of jotting surroundings are those of the surroundings. -/
def Books.jotting (b : Books σ) : Books (σ × List Jot) where
  valid p := b.valid p.1
  record p := b.record p.1
  sent p := b.sent p.1
  drift p p' := b.drift p.1 p'.1

theorem Books.Same.jotting {b : Books σ} {p : σ × List Jot} {w : σ} (same : b.Same p.1 w) (jots : List Jot) :
    b.jotting.Same p (w, jots) := ⟨same.valid, same.record, same.sent, same.drift⟩

theorem Books.Becomes.jotting {b : Books σ} {p : σ × List Jot} {w : σ} {records : String → Option Execution}
    (becomes : b.Becomes p.1 records w) (jots : List Jot) : b.jotting.Becomes p records (w, jots) :=
  ⟨becomes.valid, becomes.record, becomes.sent, becomes.drift⟩

/-- Jotting surroundings promise what the surroundings promise. -/
def Ledger.jotting (k : Ledger s) : Ledger s.jotting where
  toBooks := k.toBooks.jotting
  drift_refl p := k.drift_refl p.1
  drift_trans d d' := k.drift_trans d d'
  id_of_record valid found := k.id_of_record valid found
  load valid id := ensures_unjotted.mpr
    ((k.load valid id).mono (fun _ _ loaded => ⟨loaded.1, loaded.2.jotting _⟩) fun _ _ none => none.elim)
  save valid e := ensures_unjotted.mpr
    ((k.save valid e).mono (fun _ _ becomes => becomes.jotting _) fun _ _ none => none.elim)
  append valid id entry := by
    refine Act.ensures_bind.mpr (ensures_unjotted.mpr ((k.append valid id entry).mono ?_ ?_))
    · rintro asked w ⟨e, stored, becomes⟩
      exact ⟨e, stored, becomes.jotting _⟩
    · rintro f w ⟨rfl, lost, same⟩
      exact ⟨rfl, lost, same.jotting _⟩
  waiting valid := ensures_unjotted.mpr ((k.waiting valid).mono
    (fun _ _ found => ⟨found.1.jotting _, found.2⟩) fun _ _ same => same.jotting _)
  respond valid sending := k.respond valid sending
  suffer valid effect := ensures_unjotted.mpr ((k.suffer valid effect).mono
    (fun _ _ becomes => becomes.jotting _) fun _ _ same => same.jotting _)

/-- The entries that have been jotted down. -/
def jottedEntries (p : σ × List Jot) (id : String) : List LogEntry := p.2.filterMap (Jot.entry? id)

/-- The surroundings in which every ledger keeps a journal. -/
abbrev Ledger.Journalling (k : Ledger s) : Surroundings ((σ × List Jot) × List Note) :=
  s.jotting.noting k.jotting.record

theorem entryless_unjotted (x : Act σ α) :
    Entryless (fun p : (σ × List Jot) × List Note => jottedEntries p.1) (unnoted (unjotted x)) := fun p =>
  ensures_unnoted.mpr (ensures_unjotted.mpr ((Act.Ensures.run x p.1.1).mono (fun _ _ _ => rfl) fun _ _ _ => rfl))

/-- Whatever jotting surroundings jot down of entries makes a journal. -/
def Ledger.journal (k : Ledger s) : Journal k.Journalling where
  toChronicle := k.jotting.chronicle
  entries p := jottedEntries p.1
  load_entries id := entryless_unjotted (s.load id)
  save_entries e p := by
    unfold Act.Ensures
    simp only [Surroundings.noting, Surroundings.jotting, unjotted, Act.onPart]
    rcases s.save e p.1.1 with ⟨_ | _, w⟩ <;> rfl
  append_entries id entry p := by
    unfold Act.Ensures
    simp only [Surroundings.noting, Surroundings.jotting, unjotted, Act.bind_apply, Act.onPart]
    rcases s.append id entry p.1.1 with ⟨_ | asked, w⟩
    · rfl
    · show jottedEntries (w, p.1.2 ++ [.entry id entry]) = _
      funext run
      by_cases own : run = id
      · subst own
        simp [jottedEntries, Jot.entry?]
      · simp [jottedEntries, Jot.entry?, own, Ne.symm own]
  suffer_entries effect := entryless_unjotted (s.suffer effect)
  respond_entries sending p := by
    funext run
    simp [Surroundings.noting, Surroundings.jotting, jottedEntries, Jot.entry?]

/-- No record is lost by being written about. -/
theorem Surroundings.Spares.journalling {id : String} (spares : s.Spares id) (k : Ledger s) :
    k.Journalling.Spares id := fun sending p => spares sending p.1.1

end Jotting

section Acts

variable {k : Journal s} {h h' h'' : Held σ} {d : Desk σ} {own : String}

theorem log_entries (nodeId action : String) (outcome : Outcome) (message : String) (data : Option Members) :
    (log s nodeId action outcome message data).Ensures h
      (fun _ h' => k.entries h'.desk.world = Function.update (k.entries h.desk.world) h.record.id
        (k.entries h.desk.world h.record.id ++ [⟨s.now h.desk.world, nodeId, action, outcome, message, data⟩]))
      fun _ h' => k.entries h'.desk.world = k.entries h.desk.world := by
  simp only [log, Act.ensures_bind, ensures_now, ensures_change, ensures_current, ensures_inWorld]
  apply (k.append_entries _ _ _).mono _ fun _ _ same => same
  rintro (_ | _) w added <;> exact added

theorem persist_entries : (persist s).Ensures h
    (fun _ h' => k.entries h'.desk.world = k.entries h.desk.world)
    fun _ h' => k.entries h'.desk.world = k.entries h.desk.world :=
  Act.ensures_bind.mpr (ensures_current.mpr (ensures_inWorld.mpr (k.save_entries _ _)))

/-- Where one run is cancelled, nothing is added to the log of another. -/
theorem cancel_entries (other : own ≠ h.record.id) : (cancel s).Ensures h
    (fun _ h' => k.entries h'.desk.world own = k.entries h.desk.world own)
    fun _ h' => k.entries h'.desk.world own = k.entries h.desk.world own := by
  refine Act.ensures_bind.mpr (ensures_become.mpr ⟨?_, fun _ => rfl⟩)
  intro e moved
  have same : e.id = h.record.id := (retouched_of_become? moved).run.id
  refine Act.ensures_bind.mpr (ensures_current.mpr (Act.ensures_bind.mpr ?_))
  apply (log_entries (k := k) _ _ _ _ _).mono
  · intro _ h₁ added
    have kept : k.entries h₁.desk.world own = k.entries h.desk.world own := by
      rw [added]
      exact Function.update_of_ne (by rwa [same]) ..
    apply persist_entries.mono
    · exact fun _ _ stored => (congrFun stored own).trans kept
    · exact fun _ _ stored => (congrFun stored own).trans kept
  · exact fun _ _ unadded => congrFun unadded own

/-- A request to cancel a run adds nothing to the log of a run that is driven. -/
theorem requestCancel_entries (valid : k.valid d.world) (driven : own ∈ d.active) (id : String) :
    (requestCancel s id).Ensures d (fun _ d' => k.entries d'.world own = k.entries d.world own)
      fun _ d' => k.entries d'.world own = k.entries d.world own := by
  apply requestCancel_sound (R := fun d' => k.entries d'.world own = k.entries d.world own)
  · exact fun _ => rfl
  intro idle
  apply ((k.load valid id).and (k.load_entries id d.world)).mono _ fun _ _ none => none.1.elim
  rintro found w ⟨⟨rfl, -⟩, unadded⟩
  refine ⟨fun _ _ => congrFun unadded own, ?_⟩
  intro e stored _
  have label : e.id = id := k.id_of_record valid stored
  have other : own ≠ e.id := by
    rintro rfl
    exact idle (label ▸ driven)
  apply (cancel_entries (h := ⟨⟨id :: d.active, d.cancels, w⟩, e⟩) other).mono
  · exact fun _ _ kept => kept.trans (congrFun unadded own)
  · exact fun _ _ kept => kept.trans (congrFun unadded own)

/-- What is in hand is claimed, and it is stored and stays so. -/
structure Recorded (k : Journal s) (h : Held σ) : Prop where
  ready : Ready k.toLedger h
  spares : s.Spares h.record.id
  stored : k.record h.desk.world h.record.id ≠ none

/-- A drive has gone on, and the log in hand and the journal have grown by the same entries. -/
structure Grows (k : Journal s) (h h' : Held σ) : Prop where
  recorded : Recorded k h'
  proceeds : Proceeds k.toLedger h h'
  entries : ∃ new, h'.record.log = h.record.log ++ new ∧
    k.entries h'.desk.world h.record.id = k.entries h.desk.world h.record.id ++ new

namespace Grows

theorem of_proceeds (recorded : Recorded k h) (p : Proceeds k.toLedger h h') {new : List LogEntry}
    (log : h'.record.log = h.record.log ++ new)
    (entries : k.entries h'.desk.world h.record.id = k.entries h.desk.world h.record.id ++ new) : Grows k h h' := by
  refine ⟨⟨p.ready, ?_, ?_⟩, p, new, log, entries⟩
  · rw [p.run.id]
    exact recorded.spares
  · rw [p.run.id]
    exact p.around.kept _ recorded.spares recorded.stored

/-- Nothing has been logged. -/
theorem of_quiet (recorded : Recorded k h) (p : Proceeds k.toLedger h h') (log : h'.record.log = h.record.log)
    (entries : k.entries h'.desk.world h.record.id = k.entries h.desk.world h.record.id) : Grows k h h' :=
  of_proceeds recorded p (log.trans (List.append_nil _).symm) (entries.trans (List.append_nil _).symm)

theorem trans (grows : Grows k h h') (grows' : Grows k h' h'') : Grows k h h'' := by
  obtain ⟨new, log, entries⟩ := grows.entries
  obtain ⟨more, log', entries'⟩ := grows'.entries
  refine ⟨grows'.recorded, grows.proceeds.trans grows'.proceeds, new ++ more, ?_, ?_⟩
  · rw [log', log, List.append_assoc]
  · rw [← grows.proceeds.run.id, entries', grows.proceeds.run.id, entries, List.append_assoc]

end Grows

/-- What goes on without a change of the record in hand or of the entries. -/
theorem grows_of_quiet {x : Act (Held σ) α} (recorded : Recorded k h) (goes : Goes k.toLedger x h)
    (record : x.Ensures h (fun _ h' => h'.record = h.record) fun _ h' => h'.record = h.record)
    (entries : x.Ensures h (fun _ h' => k.entries h'.desk.world h.record.id = k.entries h.desk.world h.record.id)
      fun _ h' => k.entries h'.desk.world h.record.id = k.entries h.desk.world h.record.id) :
    x.Ensures h (fun _ => Grows k h) fun _ => Grows k h := by
  apply ((goes.and record).and entries).mono
  · exact fun _ _ ⟨⟨p, same⟩, unadded⟩ => .of_quiet recorded p (by rw [same]) unadded
  · exact fun _ _ ⟨⟨p, same⟩, unadded⟩ => .of_quiet recorded p (by rw [same]) unadded

/-- Whatever is done in a drive, the log in hand and the journal grow by the same entries. -/
def growing (k : Journal s) : Manner.Driving s where
  fits := Recorded k
  goes := Grows k
  refl recorded := .of_quiet recorded (.refl recorded.ready) rfl rfl
  trans := .trans
  fits_of_goes grows := grows.recorded
  change recorded retouched := .of_quiet recorded
    (.of_change recorded.ready retouched.run (retouched.log ▸ List.prefix_refl _)) retouched.log rfl
  merges recorded := .of_quiet recorded (.of_change recorded.ready ⟨rfl, rfl, rfl⟩ (List.prefix_refl _)) rfl rfl
  log := by
    intro h recorded nodeId action outcome message data
    have logs := (log_spec (k := k.toLedger) recorded.ready.valid nodeId action outcome message data).and
      (log_entries (k := k) nodeId action outcome message data)
    have goes := (proceeding k.toLedger).log recorded.ready nodeId action outcome message data
    apply (goes.and logs).mono
    · rintro _ h' ⟨p, ⟨e, -, record, -⟩, added⟩
      apply Grows.of_proceeds recorded p
      · rw [record]
        rfl
      · rw [added, Function.update_self]
    · rintro _ h' ⟨-, ⟨-, lost, -⟩, -⟩
      exact absurd lost recorded.stored
  respond {h sending} recorded own := .of_quiet recorded ((proceeding k.toLedger).respond recorded.ready own) rfl
    (congrFun (k.respond_entries sending h.desk.world) h.record.id)
  happen := by
    intro h effect recorded caused
    apply grows_of_quiet recorded ((proceeding k.toLedger).happen recorded.ready caused) (happen_record effect)
    have plain : (Held.inWorld (s.suffer effect)).Ensures h
        (fun _ h' => k.entries h'.desk.world h.record.id = k.entries h.desk.world h.record.id)
        fun _ h' => k.entries h'.desk.world h.record.id = k.entries h.desk.world h.record.id :=
      ensures_inWorld.mpr ((k.suffer_entries effect h.desk.world).mono
        (fun _ _ unadded => congrFun unadded _) fun _ _ unadded => congrFun unadded _)
    cases effect with
    | cancel id =>
      refine Act.ensures_bind.mpr (ensures_atDesk.mpr ?_)
      exact requestCancel_entries recorded.ready.valid recorded.ready.claimed id
    | _ => exact plain
  persist h recorded := by
    apply grows_of_quiet recorded ((proceeding k.toLedger).persist h recorded.ready) persist_record
    exact persist_entries.mono (fun _ _ unadded => congrFun unadded _) fun _ _ unadded => congrFun unadded _
  consume h recorded := by
    apply grows_of_quiet recorded ((proceeding k.toLedger).consume h recorded.ready) (atDesk_record _)
    refine ensures_consumeCancel.mpr ?_
    split <;> rfl
  moved expected h recorded := by
    apply grows_of_quiet recorded ((proceeding k.toLedger).moved expected h recorded.ready) (movedOn_record expected)
    refine Act.ensures_bind.mpr (ensures_current.mpr (Act.ensures_bind.mpr (ensures_inWorld.mpr ?_)))
    apply (k.load_entries h.record.id h.desk.world).mono _ fun _ _ unadded => congrFun unadded _
    rintro (_ | _) w unadded <;> exact congrFun unadded _

end Acts

end TriggerFlow.Run
