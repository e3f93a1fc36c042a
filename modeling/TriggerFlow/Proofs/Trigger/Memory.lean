import TriggerFlow.Proofs.Json.Printed
import TriggerFlow.Proofs.Workflow.Record
import Mathlib.Data.List.Perm.Subperm

/-!
# What the scheduler remembers

The memory of triggers as a store gives it back, whether it keeps it in memory or in a file. A file loses nothing but
the odd seconds of an offset, and what is not written because nothing seems to have changed has not changed.
-/

namespace TriggerFlow

namespace TriggerMemory

variable {a b c : TriggerMemory}

theorem same_iff : a.same b = true ↔ a.lastCondition = b.lastCondition ∧
    (a.lastMinute = none ∧ b.lastMinute = none ∨
      ∃ s t, a.lastMinute = some s ∧ b.lastMinute = some t ∧ s.same t = true) := by
  unfold same
  rcases a with ⟨_ | s, p⟩ <;> rcases b with ⟨_ | t, q⟩ <;> simp

theorem same_refl (a : TriggerMemory) : a.same a = true := by
  rw [same_iff]
  cases minute : a.lastMinute with
  | none => exact ⟨rfl, .inl ⟨rfl, rfl⟩⟩
  | some t => exact ⟨rfl, .inr ⟨t, t, rfl, rfl, t.same_refl⟩⟩

theorem same_blank (blank : a.same .blank = true) : a = .blank := by
  obtain ⟨condition, ⟨minute, -⟩ | ⟨_, _, -, none, -⟩⟩ := same_iff.mp blank
  · cases a
    cases condition
    cases minute
    rfl
  · cases none

/-- A memory as a file keeps it. -/
def recorded (memory : TriggerMemory) : TriggerMemory :=
  { memory with lastMinute := memory.lastMinute.map Instant.recorded }

/-- A memory of a minute that a clock can show. -/
def Shown (memory : TriggerMemory) : Prop := ∀ t ∈ memory.lastMinute, t.Shown

/-- A memory of a minute whose offset, if known, is known in whole minutes. -/
def InMinutes (memory : TriggerMemory) : Prop := ∀ t ∈ memory.lastMinute, t.InMinutes

theorem InMinutes.recorded_eq (minutes : a.InMinutes) : a.recorded = a := by
  obtain ⟨_ | t, condition⟩ := a
  · rfl
  · simp only [TriggerMemory.recorded, Option.map_some, (minutes t rfl).recorded_eq]

/-- The record of a memory is read back. -/
theorem Shown.ofRecord_toRecord (shown : a.Shown) : ofRecord a.toRecord = .value a.recorded :=
  Reading.seq_of_value (Reading.map_of_value _ (Record.optional_of_get? _ rfl (Record.nullable_instantRecord shown)))
    (Record.optional_of_get? _ rfl (Record.truth_bool _))

/-- The record of a memory can be told by a text. -/
theorem isPlain_toRecord (memory : TriggerMemory) : memory.toRecord.isPlain = true := by
  refine Json.isPlain_object.mpr ⟨show ["last_fired_minute", "last_condition"].Nodup by decide, fun pair mem => ?_⟩
  simp only [List.mem_cons, List.not_mem_nil, or_false] at mem
  rcases mem with rfl | rfl
  · obtain ⟨_ | t, condition⟩ := memory <;> rfl
  · rfl

/-- Whatever reads as a memory holds a minute as records have it. -/
theorem written_of_ofRecord {datum : Json} (read : ofRecord datum = .value a) : ∀ t ∈ a.lastMinute, t.Written := by
  cases datum with
  | object m =>
    obtain ⟨_, condition, made, -, rfl⟩ := Reading.seq_eq_value read
    obtain ⟨minute, found, rfl⟩ := Reading.map_eq_value made
    rcases Record.get?_of_optional found with ⟨_, -, nullable⟩ | ⟨-, rfl⟩
    · exact fun t mem => Record.written_of_instant (Record.reads_of_nullable nullable t mem)
    · simp
  | _ => cases read

end TriggerMemory

/-- Reading the text of a file of memories gives them back. -/
theorem triggersOfText_triggersText {kept : Ordered TriggerMemory} (distinct : kept.keys.Nodup)
    (shown : ∀ pair ∈ kept, pair.2.Shown) :
    triggersOfText (some (triggersText kept)) = kept.map fun pair => (pair.1, pair.2.recorded) := by
  have plain : (Json.object (kept.map fun pair => (pair.1, pair.2.toRecord))).isPlain = true := by
    refine Json.isPlain_object.mpr ⟨by simpa [Ordered.keys, Function.comp_def] using distinct, ?_⟩
    simp only [List.mem_map]
    rintro _ ⟨pair, -, rfl⟩
    exact pair.2.isPlain_toRecord
  have read : Json.read? (triggersText kept) = some (.object (kept.map fun pair => (pair.1, pair.2.toRecord))) := by
    rw [Json.read?, triggersText, Json.read_fileText_of_isPlain plain]
    rfl
  have each : (kept.map fun pair => (pair.1, pair.2.toRecord)).mapM
      (fun pair => (TriggerMemory.ofRecord pair.2).value?.map (pair.1, ·)) =
        some (kept.map fun pair => (pair.1, pair.2.recorded)) := by
    clear read plain distinct
    induction kept with
    | nil => rfl
    | cons pair rest ih =>
      have first := (shown pair (List.mem_cons_self ..)).ofRecord_toRecord
      have others := ih fun pair mem => shown pair (List.mem_cons_of_mem _ mem)
      rw [List.map_cons, List.mapM_cons, first, others]
      rfl
  rw [triggersOfText, Option.bind_some, read]
  dsimp only
  rw [each]
  rfl

theorem exists_of_mapM {α β : Type} {f : α → Option β} {l : List α} {found : List β} (read : l.mapM f = some found) :
    ∀ b ∈ found, ∃ a ∈ l, f a = some b := by
  induction l generalizing found with
  | nil =>
    cases read
    simp
  | cons a rest ih =>
    rw [List.mapM_cons] at read
    obtain ⟨first, here, read⟩ := Option.bind_eq_some_iff.mp read
    obtain ⟨others, there, read⟩ := Option.bind_eq_some_iff.mp read
    cases read
    intro b mem
    rcases List.mem_cons.mp mem with rfl | mem
    · exact ⟨a, List.mem_cons_self .., here⟩
    · obtain ⟨a, mem, same⟩ := ih there b mem
      exact ⟨a, List.mem_cons_of_mem _ mem, same⟩

/-- The memories in a file are as records have them, whatever its text. -/
theorem written_of_triggersOfText {text : Option String} {pair : String × TriggerMemory}
    (mem : pair ∈ triggersOfText text) : ∀ t ∈ pair.2.lastMinute, t.Written := by
  unfold triggersOfText at mem
  split at mem
  · rename_i m _
    cases read : m.mapM fun pair => (TriggerMemory.ofRecord pair.2).value?.map (pair.1, ·) with
    | none => simp [read] at mem
    | some found =>
      rw [read, Option.getD_some] at mem
      obtain ⟨source, -, taken⟩ := exists_of_mapM read pair mem
      obtain ⟨memory, value, rfl⟩ := Option.map_eq_some_iff.mp taken
      cases reading : TriggerMemory.ofRecord source.2 with
      | value a =>
        rw [reading] at value
        cases value
        exact TriggerMemory.written_of_ofRecord reading
      | issues found => simp [reading, Reading.value?] at value
  · cases mem

/-- What a store makes of a memory that it keeps. -/
def Keeping.kept : Keeping → TriggerMemory → TriggerMemory
  | .memory _, held => held
  | .files _, held => held.recorded

@[simp] theorem Keeping.kept_blank (keeping : Keeping) : keeping.kept .blank = .blank := by cases keeping <;> rfl

@[simp] theorem Keeping.kept_lastCondition (keeping : Keeping) (held : TriggerMemory) :
    (keeping.kept held).lastCondition = held.lastCondition := by cases keeping <;> rfl

theorem TriggerMemory.InMinutes.kept_eq {held : TriggerMemory} (minutes : held.InMinutes) (keeping : Keeping) :
    keeping.kept held = held := by
  cases keeping with
  | memory _ => rfl
  | files _ => exact minutes.recorded_eq

/-- Only the remembered minute may be kept in another form. -/
theorem Keeping.kept_of_lastMinute {keeping : Keeping} {held later : TriggerMemory} (kept : keeping.kept held = held)
    (minute : later.lastMinute = held.lastMinute) : keeping.kept later = later := by
  cases keeping with
  | memory _ => rfl
  | files _ =>
    have lastMinute : held.lastMinute.map Instant.recorded = held.lastMinute := congrArg TriggerMemory.lastMinute kept
    simp only [Keeping.kept, TriggerMemory.recorded, minute, lastMinute]
    rw [← minute]

namespace Store

variable {s : Store}

/-- The memory of triggers as the store gives it. -/
def memories (s : Store) : Ordered TriggerMemory :=
  match s.keeping with
  | .memory m => m.triggers
  | .files shelf => triggersOfText (s.folder.get? shelf.triggers)

/-- What is remembered of the workflow with an identifier. -/
def remembers (s : Store) (id : String) : TriggerMemory := (s.memories.get? id).getD .blank

theorem triggers_eq (s : Store) : triggers s = (.ok s.memories, s) := by
  obtain ⟨now, drawn, folder, _ | _⟩ := s <;> rfl

/-- What is recalled has been kept before: it is not changed by being kept again. -/
theorem kept_of_memories {pair : String × TriggerMemory} (mem : pair ∈ s.memories) :
    s.keeping.kept pair.2 = pair.2 := by
  cases kind : s.keeping with
  | memory _ => rfl
  | files shelf =>
    rw [memories, kind] at mem
    exact TriggerMemory.InMinutes.recorded_eq fun t named => (written_of_triggersOfText mem t named).minutes

/-- A store in files recalls only what a clock can show. -/
theorem shown_of_memories {shelf : Shelf} (kind : s.keeping = .files shelf) {pair : String × TriggerMemory}
    (mem : pair ∈ s.memories) : pair.2.Shown := by
  rw [memories, kind] at mem
  exact fun t named => (written_of_triggersOfText mem t named).toShown

theorem kept_remembers (s : Store) (id : String) : s.keeping.kept (s.remembers id) = s.remembers id := by
  unfold remembers
  cases found : s.memories.get? id with
  | none => exact s.keeping.kept_blank
  | some held => exact kept_of_memories (Ordered.mem_of_get? found)

theorem shown_remembers {shelf : Shelf} (kind : s.keeping = .files shelf) (id : String) : (s.remembers id).Shown := by
  unfold remembers
  cases found : s.memories.get? id with
  | none => exact fun t named => by cases named
  | some held => exact shown_of_memories kind (Ordered.mem_of_get? found)

/-- What has been saved is recalled as the store keeps it. -/
theorem saveTriggers_memories (s : Store) {saved : Ordered TriggerMemory} (distinct : saved.keys.Nodup)
    (shown : ∀ shelf, s.keeping = .files shelf → ∀ pair ∈ saved, pair.2.Shown) :
    ∃ s', saveTriggers saved s = (.ok (), s') ∧
      s'.memories = saved.map fun pair => (pair.1, s.keeping.kept pair.2) := by
  obtain ⟨now, drawn, folder, m | shelf⟩ := s
  · exact ⟨_, rfl, (List.map_id saved).symm⟩
  · refine ⟨_, rfl, ?_⟩
    change triggersOfText ((Ordered.set folder shelf.triggers (triggersText saved)).get? shelf.triggers) = _
    rw [Ordered.get?_set_self, triggersOfText_triggersText distinct (shown shelf rfl)]
    rfl

end Store

end TriggerFlow
