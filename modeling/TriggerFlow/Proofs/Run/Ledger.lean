import TriggerFlow.Proofs.Act
import TriggerFlow.Run.Drive
import Mathlib.Logic.Function.Basic

/-!
# What a store promises to the runs

The surroundings of a run are left open: any clock, any dispatcher and any store will do. A ledger is a view
of them, with the stored record of every run and everything that has been sent out, and with the promise that
each operation changes this view in its own way and in no other. Time may pass at every operation. Records
may be lost while an action runs, and nowhere else.
-/

namespace TriggerFlow.Run

variable {σ : Type}

/-- A view of the surroundings: in which states they can be relied on, the stored record of each run, what
has been sent out, and how the rest may change. -/
structure Books (σ : Type) where
  valid : σ → Prop
  record : σ → String → Option Execution
  sent : σ → List Sending
  drift : σ → σ → Prop

namespace Books

/-- Nothing has changed that the view shows. -/
structure Same (b : Books σ) (w w' : σ) : Prop where
  valid : b.valid w'
  record : b.record w' = b.record w
  sent : b.sent w' = b.sent w
  drift : b.drift w w'

/-- The stored records have changed as told, and nothing has been sent out. -/
structure Becomes (b : Books σ) (w : σ) (records : String → Option Execution) (w' : σ) : Prop where
  valid : b.valid w'
  record : b.record w' = records
  sent : b.sent w' = b.sent w
  drift : b.drift w w'

/-- What has been sent out for a run. -/
def calls (b : Books σ) (w : σ) (id : String) : List Sending := (b.sent w).filter fun c => c.runId = id

end Books

/-- The stored records after something has happened around a run. -/
def afterEffect (records : String → Option Execution) : Action.Effect → String → Option Execution
  | .forget id => Function.update records id none
  | _ => records

/-- A record with one more entry in its log. -/
def logged (e : Execution) (entry : LogEntry) : Execution := { e with log := e.log ++ [entry] }

/-- The promises of surroundings to the runs in them. -/
structure Ledger (s : Surroundings σ) extends Books σ where
  drift_refl : ∀ w, drift w w
  drift_trans : ∀ {u v w}, drift u v → drift v w → drift u w
  id_of_record : ∀ {w id e}, valid w → record w id = some e → e.id = id
  load : ∀ {w}, valid w → ∀ id, (s.load id).Ensures w
    (fun found w' => found = record w id ∧ toBooks.Same w w') fun _ _ => False
  save : ∀ {w}, valid w → ∀ e, (s.save e).Ensures w
    (fun _ w' => toBooks.Becomes w (Function.update (record w) e.id (some e)) w') fun _ _ => False
  append : ∀ {w}, valid w → ∀ id entry, (s.append id entry).Ensures w
    (fun _ w' => ∃ e, record w id = some e ∧
      toBooks.Becomes w (Function.update (record w) id (some (logged e entry))) w')
    (fun f w' => f = .executionMissing id ∧ record w id = none ∧ toBooks.Same w w')
  waiting : ∀ {w}, valid w → s.waiting.Ensures w
    (fun found w' => toBooks.Same w w' ∧ (found.map Execution.id).Nodup ∧
      ∀ e ∈ found, record w e.id = some e ∧ e.status = .waiting)
    (fun _ w' => toBooks.Same w w')
  respond : ∀ {w}, valid w → ∀ sending, valid (s.respond sending w).2.2 ∧
    record (s.respond sending w).2.2 = record w ∧ sent (s.respond sending w).2.2 = sent w ++ [sending] ∧
    drift w (s.respond sending w).2.2
  suffer : ∀ {w}, valid w → ∀ effect, (s.suffer effect).Ensures w
    (fun _ w' => toBooks.Becomes w (afterEffect (record w) effect) w') fun _ w' => toBooks.Same w w'

/-- What happens around a run leaves no trace that the view shows, if it leaves the stored records alone. -/
theorem Ledger.suffer_same {s : Surroundings σ} (k : Ledger s) {w : σ} (valid : k.valid w) {effect : Action.Effect}
    (records : afterEffect (k.record w) effect = k.record w) :
    (s.suffer effect).Ensures w (fun _ => k.Same w) fun _ => k.Same w := by
  apply (k.suffer valid effect).mono
  · exact fun _ _ becomes => ⟨becomes.valid, becomes.record.trans records, becomes.sent, becomes.drift⟩
  · exact fun _ _ same => same

/-- The surroundings never lose the record of a run. -/
def Surroundings.Spares (s : Surroundings σ) (id : String) : Prop :=
  ∀ sending w, Action.Effect.forget id ∉ (s.respond sending w).1

/-- A record as it is when its run has been cancelled where it stood. -/
def cancelledAt (e : Execution) (ended noted : Instant) : Execution :=
  { e with
    status := .cancelled, completedAt := some ended, wait := none
    log := e.log ++ [⟨noted, e.nodeId.getD "", "Cancel", .warning, "Execution cancelled", none⟩] }

/-- What may become of the stored record of a run while another one is driven: it may be cancelled where it
waits, and it may be lost. -/
inductive Meanwhile : Option Execution → Option Execution → Prop where
  | same (r : Option Execution) : Meanwhile r r
  | cancelled (e : Execution) (ended noted : Instant) (waits : e.status = .waiting) :
    Meanwhile (some e) (some (cancelledAt e ended noted))
  | lost (r : Option Execution) : Meanwhile r none

theorem Meanwhile.trans {r r' r'' : Option Execution} (h : Meanwhile r r') (h' : Meanwhile r' r'') :
    Meanwhile r r'' := by
  cases h with
  | same => exact h'
  | cancelled e ended noted waits =>
    cases h' with
    | same => exact .cancelled e ended noted waits
    | cancelled _ _ _ again => exact absurd again (by simp [cancelledAt])
    | lost => exact .lost _
  | lost =>
    cases h' with
    | same => exact .lost _
    | lost => exact .lost _

/-- No record comes to be in the meantime. -/
theorem Meanwhile.ne_none {r r' : Option Execution} (h : Meanwhile r r') (present : r' ≠ none) : r ≠ none := by
  cases h with
  | same => exact present
  | cancelled => simp
  | lost => exact absurd rfl present

variable {s : Surroundings σ}

/-- What may change around a run while it is driven: the records of other runs as they may in the meantime,
and whatever is sent out is sent for this run. -/
structure Around (k : Ledger s) (id : String) (d d' : Desk σ) : Prop where
  valid : k.valid d'.world
  active : d'.active = d.active
  drift : k.drift d.world d'.world
  others : ∀ other, other ≠ id → Meanwhile (k.record d.world other) (k.record d'.world other)
  sent : ∃ new, k.sent d'.world = k.sent d.world ++ new ∧ ∀ c ∈ new, c.runId = id
  kept : ∀ other, s.Spares other → k.record d.world other ≠ none → k.record d'.world other ≠ none

namespace Around

variable {k : Ledger s} {id : String} {d d' d'' : Desk σ}

theorem refl (valid : k.valid d.world) : Around k id d d :=
  ⟨valid, rfl, k.drift_refl _, fun _ _ => .same _, ⟨[], by simp, by simp⟩, fun _ _ h => h⟩

theorem trans (h : Around k id d d') (h' : Around k id d' d'') : Around k id d d'' := by
  obtain ⟨new, sent, own⟩ := h.sent
  obtain ⟨new', sent', own'⟩ := h'.sent
  refine ⟨h'.valid, h'.active.trans h.active, k.drift_trans h.drift h'.drift,
    fun other ne => (h.others other ne).trans (h'.others other ne), ⟨new ++ new', by simp [sent, sent'], ?_⟩,
    fun other spares present => h'.kept other spares (h.kept other spares present)⟩
  intro c mem
  rcases List.mem_append.mp mem with mem | mem
  · exact own c mem
  · exact own' c mem

/-- Another run has no part in what is sent out. -/
theorem calls_of_ne (h : Around k id d d') {other : String} (ne : other ≠ id) :
    k.calls d'.world other = k.calls d.world other := by
  obtain ⟨new, sent, own⟩ := h.sent
  have none : (new.filter fun c => c.runId = other) = [] := by
    rw [List.filter_eq_nil_iff]
    intro c mem
    simp [own c mem, Ne.symm ne]
  simp [Books.calls, sent, none]

/-- Nothing has changed that is kept of the runs. -/
theorem of_same (active : d'.active = d.active) (h : k.Same d.world d'.world) : Around k id d d' where
  valid := h.valid
  active := active
  drift := h.drift
  others other _ := by
    rw [h.record]
    exact .same _
  sent := ⟨[], by simp [h.sent], by simp⟩
  kept other _ present := by rwa [h.record]

/-- The record of the run itself is free to change. -/
theorem of_update (active : d'.active = d.active) {e : Execution}
    (h : k.Becomes d.world (Function.update (k.record d.world) id (some e)) d'.world) :
    Around k id d d' where
  valid := h.valid
  active := active
  drift := h.drift
  others other ne := by
    rw [h.record, Function.update_of_ne ne]
    exact .same _
  sent := ⟨[], by simp [h.sent], by simp⟩
  kept other _ present := by
    rw [h.record]
    by_cases same : other = id
    · simp [same]
    · rwa [Function.update_of_ne same]

end Around

end TriggerFlow.Run
