import TriggerFlow.Proofs.Run.Ledger

/-!
# What the single acts of a drive do

An act that moves or logs changes the record in hand in a known way, and the stored record of the same run
with it. Storing an entry fails only when the record is lost. A request to cancel touches one run alone,
and only if that run waits and nobody drives it.
-/

namespace TriggerFlow.Run

variable {σ : Type} {s : Surroundings σ} {k : Ledger s} {h : Held σ}

section Plain

variable {α : Type} {good : α → Held σ → Prop} {bad : Failure → Held σ → Prop}

@[simp] theorem ensures_current {good : Execution → Held σ → Prop} :
    Held.current.Ensures h good bad ↔ good h.record h := Iff.rfl

@[simp] theorem ensures_change {f : Execution → Execution} {good : Unit → Held σ → Prop} :
    (Held.change f).Ensures h good bad ↔ good () { h with record := f h.record } := Iff.rfl

@[simp] theorem ensures_now {good : Instant → Held σ → Prop} :
    (now s).Ensures h good bad ↔ good (s.now h.desk.world) h := Iff.rfl

@[simp] theorem ensures_atDesk {x : Act (Desk σ) α} : (Held.atDesk x).Ensures h good bad ↔
    x.Ensures h.desk (fun a d => good a { h with desk := d }) fun f d => bad f { h with desk := d } :=
  Act.ensures_onPart

@[simp] theorem ensures_inWorld {x : Act σ α} : (Held.inWorld x).Ensures h good bad ↔
    x.Ensures h.desk.world (fun a w => good a { h with desk := { h.desk with world := w } })
      fun f w => bad f { h with desk := { h.desk with world := w } } := by
  rw [Held.inWorld, ensures_atDesk, Desk.inWorld, Act.ensures_onPart]

theorem ensures_become {next : Status} {good : Unit → Held σ → Prop} :
    (become s next).Ensures h good bad ↔
      (∀ e, h.record.become? next (s.now h.desk.world) = some e → good () { h with record := e }) ∧
        (h.record.become? next (s.now h.desk.world) = none →
          bad (.illegalMove (h.record.illegalMove next)) h) := by
  simp only [become, Act.ensures_bind, ensures_current, ensures_now]
  cases h.record.become? next (s.now h.desk.world) <;> simp

theorem ensures_consumeCancel {good : Bool → Held σ → Prop} :
    (consumeCancel).Ensures h good bad ↔
      if h.desk.cancels.contains h.record.id then
        good true { h with desk := { h.desk with cancels := without h.record.id h.desk.cancels } }
      else good false h := by
  simp only [consumeCancel, Act.ensures_bind, ensures_current, ensures_atDesk]
  unfold Act.Ensures Desk.consumeCancel
  cases h.desk.cancels.contains h.record.id <;> exact Iff.rfl

theorem ensures_claim {id : String} {d : Desk σ} {good : Bool → Desk σ → Prop}
    {bad : Failure → Desk σ → Prop} : (Desk.claim id).Ensures d good bad ↔
      if d.active.contains id then good false d else good true { d with active := id :: d.active } := by
  unfold Act.Ensures Desk.claim
  cases d.active.contains id <;> exact Iff.rfl

end Plain

/-- No entry in the log of a run asks for the run to be cancelled. -/
def Surroundings.Discreet (s : Surroundings σ) (id : String) : Prop :=
  ∀ entry w, (s.append id entry w).1 ≠ .ok true

theorem log_spec (valid : k.valid h.desk.world) (nodeId action : String) (outcome : Outcome)
    (message : String) (data : Option Members) :
    (log s nodeId action outcome message data).Ensures h
      (fun _ h' => ∃ e, k.record h.desk.world h.record.id = some e ∧
        h'.record = logged h.record ⟨s.now h.desk.world, nodeId, action, outcome, message, data⟩ ∧
        h'.desk.active = h.desk.active ∧
        (s.Discreet h.record.id → h'.desk.cancels = h.desk.cancels) ∧
        k.Becomes h.desk.world (Function.update (k.record h.desk.world) h.record.id
          (some (logged e ⟨s.now h.desk.world, nodeId, action, outcome, message, data⟩))) h'.desk.world)
      (fun f h' => f = .executionMissing h.record.id ∧ k.record h.desk.world h.record.id = none ∧
        h'.record = logged h.record ⟨s.now h.desk.world, nodeId, action, outcome, message, data⟩ ∧
        h'.desk = { h.desk with world := h'.desk.world } ∧ k.Same h.desk.world h'.desk.world) := by
  simp only [log, Act.ensures_bind, ensures_now, ensures_change, ensures_current, ensures_inWorld,
    true_and]
  have stored := k.append valid h.record.id ⟨s.now h.desk.world, nodeId, action, outcome, message, data⟩
  have quiet : s.Discreet h.record.id → _ := fun quiet =>
    quiet ⟨s.now h.desk.world, nodeId, action, outcome, message, data⟩ h.desk.world
  unfold Act.Ensures at stored ⊢
  rcases run : s.append h.record.id ⟨s.now h.desk.world, nodeId, action, outcome, message, data⟩
    h.desk.world with ⟨failure | flag, w⟩ <;> rw [run] at stored quiet
  · exact ⟨stored.1, stored.2.1, rfl, stored.2.2⟩
  · obtain ⟨e, present, becomes⟩ := stored
    cases flag with
    | true => exact ⟨e, present, rfl, rfl, fun discreet => absurd rfl (quiet discreet), becomes⟩
    | false => exact ⟨e, present, rfl, rfl, fun _ => rfl, becomes⟩

theorem persist_spec (valid : k.valid h.desk.world) : (persist s).Ensures h
    (fun _ h' => h'.record = h.record ∧ h'.desk = { h.desk with world := h'.desk.world } ∧
      k.Becomes h.desk.world (Function.update (k.record h.desk.world) h.record.id (some h.record))
        h'.desk.world)
    (fun _ _ => False) := by
  simp only [persist, Act.ensures_bind, ensures_current, ensures_inWorld, true_and]
  exact k.save valid h.record

/-- Whatever has been logged is part of what is stored in the end. -/
theorem Books.Becomes.overwrite {b : Books σ} (trans : ∀ {u v w}, b.drift u v → b.drift v w → b.drift u w)
    {u v w : σ} {id : String} {r r' : Option Execution}
    (h : b.Becomes u (Function.update (b.record u) id r) v)
    (h' : b.Becomes v (Function.update (b.record v) id r') w) :
    b.Becomes u (Function.update (b.record u) id r') w where
  valid := h'.valid
  record := by rw [h'.record, h.record, Function.update_idem]
  sent := h'.sent.trans h.sent
  drift := trans h.drift h'.drift

/-- A run that has not ended can be cancelled as long as its record is stored. -/
theorem cancel_spec (valid : k.valid h.desk.world) (stored : k.record h.desk.world h.record.id ≠ none)
    (lives : h.record.status.canBecome .cancelled) : (cancel s).Ensures h
      (fun _ h' => ∃ ended noted, h'.record = cancelledAt h.record ended noted ∧
        h'.desk.active = h.desk.active ∧ k.Becomes h.desk.world
          (Function.update (k.record h.desk.world) h.record.id (some h'.record)) h'.desk.world)
      (fun _ _ => False) := by
  have moved : h.record.become? .cancelled (s.now h.desk.world) = some { h.record with
      status := .cancelled, completedAt := some (s.now h.desk.world), wait := none } := by
    rw [Execution.become?, if_pos lives]
    rfl
  simp only [cancel, Act.ensures_bind, ensures_become, ensures_current, moved, Option.some.injEq,
    forall_eq', reduceCtorEq, false_implies, and_true]
  refine (log_spec (k := k) (by exact valid) _ _ _ _ _).mono ?_ fun f h' lost => stored lost.2.1
  rintro - h' ⟨e, -, record, active, -, becomes⟩
  refine (persist_spec becomes.valid).mono ?_ fun _ _ none => none
  rintro - h'' ⟨same, desk, becomes'⟩
  refine ⟨_, _, same.trans record, by rw [desk]; exact active, ?_⟩
  have id : h'.record.id = h.record.id := by rw [record]; rfl
  rw [id] at becomes'
  rw [same]
  exact becomes.overwrite k.drift_trans becomes'

/-- A record as it is when its run has been ended by a failure of its own. -/
def abortedAt (e : Execution) (message : String) (ended noted : Instant) : Execution :=
  { e with
    status := .failed, completedAt := some ended, wait := none, error := some message
    log := e.log ++ [⟨noted, e.nodeId.getD "", "Engine", .error, message, none⟩] }

/-- A failure ends a run whatever its store makes of it. -/
theorem abort_spec (valid : k.valid h.desk.world) (lives : h.record.status.canBecome .failed)
    (failure : Failure) : (abort s failure).Ensures h
      (fun _ h' => ∃ ended noted, h'.record = abortedAt h.record failure.message ended noted ∧
        h'.desk.active = h.desk.active ∧
        ((k.record h.desk.world h.record.id = none ∧ k.Same h.desk.world h'.desk.world) ∨
          k.record h.desk.world h.record.id ≠ none ∧ k.Becomes h.desk.world
            (Function.update (k.record h.desk.world) h.record.id (some h'.record)) h'.desk.world))
      (fun _ _ => False) := by
  have running : h.record.isTerminal = false := by
    cases ended : h.record.isTerminal
    · rfl
    · rw [Status.canBecome_of_isTerminal ended] at lives
      cases lives
  have moved : ({ h.record with error := some failure.message } : Execution).become? .failed
      (s.now h.desk.world) = some { h.record with
        status := .failed, completedAt := some (s.now h.desk.world), wait := none
        error := some failure.message } := by
    rw [Execution.become?, if_pos lives]
    rfl
  simp only [abort, Act.ensures_bind, ensures_become, ensures_current, ensures_change, running,
    Bool.false_eq_true, if_false, moved, Option.some.injEq, forall_eq', reduceCtorEq, false_implies,
    and_true, Act.ensures_recover, Act.ensures_pure]
  refine (log_spec (k := k) (by exact valid) _ _ _ _ _).mono ?_ ?_
  · rintro - h' ⟨e, present, record, active, -, becomes⟩
    refine (persist_spec becomes.valid).mono ?_ fun _ _ none => none.elim
    rintro - h'' ⟨same, desk, becomes'⟩
    refine ⟨_, _, same.trans record, by rw [desk]; exact active, .inr ⟨?_, ?_⟩⟩
    · exact fun none => by cases present.symm.trans none
    have id : h'.record.id = h.record.id := by rw [record]; rfl
    rw [id] at becomes'
    rw [same]
    exact becomes.overwrite k.drift_trans becomes'
  · rintro f h' ⟨-, missing, record, desk, same⟩
    exact ⟨_, _, record, by rw [desk], .inl ⟨missing, same⟩⟩

/-- What a request to cancel may change: the record of its run, if that waits and nobody drives it. -/
structure Requested (k : Ledger s) (id : String) (d d' : Desk σ) : Prop where
  valid : k.valid d'.world
  active : d'.active = d.active
  drift : k.drift d.world d'.world
  sent : k.sent d'.world = k.sent d.world
  others : ∀ other, other ≠ id → k.record d'.world other = k.record d.world other
  own : k.record d'.world id = k.record d.world id ∨ id ∉ d.active ∧
    ∃ e ended noted, k.record d.world id = some e ∧ e.status = .waiting ∧
      k.record d'.world id = some (cancelledAt e ended noted)

theorem Requested.of_same {id : String} {d d' : Desk σ} (active : d'.active = d.active)
    (h : k.Same d.world d'.world) : Requested k id d d' :=
  ⟨h.valid, active, h.drift, h.sent, fun _ _ => by rw [h.record], .inl (by rw [h.record])⟩

/-- What somebody has asked of one run leaves the record of it as it was, or cancelled. -/
theorem Requested.meanwhile {id : String} {d d' : Desk σ} (asked : Requested k id d d') :
    Meanwhile (k.record d.world id) (k.record d'.world id) := by
  rcases asked.own with same | ⟨-, e, ended, noted, before, waits, after⟩
  · exact same ▸ .same _
  · rw [before, after]
    exact .cancelled e ended noted waits

/-- What somebody has asked of one run loses no records. -/
theorem Requested.kept {id other : String} {d d' : Desk σ} (asked : Requested k id d d')
    (present : k.record d.world other ≠ none) : k.record d'.world other ≠ none := by
  by_cases same : other = id
  · subst same
    rcases asked.own with unchanged | ⟨-, e, ended, noted, -, -, after⟩
    · rwa [unchanged]
    · simp [after]
  · rwa [asked.others other same]

/-- A request leaves the stored record of a run alone while the run is driven. -/
theorem Requested.own_of_claimed {id own : String} {d d' : Desk σ} (asked : Requested k id d d')
    (claimed : own ∈ d.active) : k.record d'.world own = k.record d.world own := by
  by_cases same : own = id
  · rcases asked.own with unchanged | ⟨idle, -⟩
    · rw [same, unchanged]
    · exact absurd (same ▸ claimed) idle
  · exact asked.others _ same

/-- A request is one of the things that may happen around a run that is driven. -/
theorem Requested.around {id own : String} {d d' : Desk σ} (asked : Requested k id d d') : Around k own d d' where
  valid := asked.valid
  active := asked.active
  drift := asked.drift
  others other _ := by
    by_cases same : other = id
    · exact same ▸ asked.meanwhile
    · rw [asked.others other same]
      exact .same _
  sent := ⟨[], by simp [asked.sent], by simp⟩
  kept _ _ := asked.kept

/-- So is the loss of a record, unless the surroundings never lose it. -/
theorem Around.of_lost {id own : String} {d : Desk σ} {w : σ} (unspared : ¬ s.Spares id)
    (becomes : k.Becomes d.world (Function.update (k.record d.world) id none) w) :
    Around k own d { d with world := w } where
  valid := becomes.valid
  active := rfl
  drift := becomes.drift
  others other _ := by
    show Meanwhile (k.record d.world other) (k.record w other)
    rw [becomes.record]
    by_cases same : other = id
    · rw [same, Function.update_self]
      exact .lost _
    · rw [Function.update_of_ne same]
      exact .same _
  sent := ⟨[], by simp [becomes.sent], by simp⟩
  kept other spares present := by
    have ne : other ≠ id := fun same => unspared (same ▸ spares)
    show k.record w other ≠ none
    rwa [becomes.record, Function.update_of_ne ne]

/-- And so is an action that goes out for the run itself. -/
theorem Around.of_respond {own : String} {d : Desk σ} (valid : k.valid d.world) {sending : Sending}
    (mine : sending.runId = own) : Around k own d { d with world := (s.respond sending d.world).2.2 } := by
  obtain ⟨valid', record, sent, drift⟩ := k.respond valid sending
  refine ⟨valid', rfl, drift, ?_, ⟨[sending], sent, by simp [mine]⟩, ?_⟩
  · intro other _
    rw [record]
    exact .same _
  · intro other _ present
    rwa [record]

/-- A claim that is given back leaves the other claims as they were. -/
theorem without_claimed {id : String} {active : List String} (idle : id ∉ active) :
    without id (id :: active) = active := by
  rw [without, List.filter_cons_of_neg (by simp), List.filter_eq_self]
  intro other mem
  simpa using fun same : other = id => idle (same ▸ mem)

theorem ensures_handed {x : Act (Held σ) Unit} {e : Execution} {d : Desk σ}
    {good : Option Execution → Desk σ → Prop} {bad : Failure → Desk σ → Prop} :
    Act.Ensures (fun d => match x ⟨d, e⟩ with
      | (.ok _, h) => (.ok (some h.record), h.desk)
      | (.error failure, h) => (.error failure, h.desk)) d good bad ↔
      x.Ensures ⟨d, e⟩ (fun _ h => good (some h.record) h.desk) fun f h => bad f h.desk := by
  simp only [Act.Ensures]
  rcases x ⟨d, e⟩ with ⟨_ | _, h⟩ <;> rfl

theorem mem_joined (id : String) (ids : List String) : id ∈ joined id ids := by
  rw [joined]
  split
  · rename_i known
    simpa using known
  · exact List.mem_cons_self

theorem mem_joined_of_mem {run id : String} {ids : List String} (mem : run ∈ ids) : run ∈ joined id ids := by
  rw [joined]
  split
  · exact mem
  · exact List.mem_cons_of_mem _ mem

/-- What a request to cancel a run comes to, on any surroundings: one that is driven is asked to stop, one that waits
is cancelled, and of any other one it may be noted. -/
theorem requestCancel_sound {d : Desk σ} {id : String} {R : Desk σ → Prop} (busy : id ∈ d.active → R (d.flagged id))
    (looks : id ∉ d.active → (s.load id).Ensures d.world
      (fun found w => (∀ cancels, (∀ run ∈ d.cancels, run ∈ cancels) → R ⟨d.active, cancels, w⟩) ∧
        ∀ e, found = some e → e.status = .waiting → (cancel s).Ensures ⟨⟨id :: d.active, d.cancels, w⟩, e⟩
          (fun _ h => R (h.desk.released id false)) fun _ h => R (h.desk.released id false))
      fun _ w => R ⟨d.active, d.cancels, w⟩) :
    (requestCancel s id).Ensures d (fun _ => R) fun _ => R := by
  rw [requestCancel, Act.ensures_bind, ensures_claim]
  by_cases driven : id ∈ d.active
  · rw [if_pos (by simpa using driven)]
    exact busy driven
  rw [if_neg (by simpa using driven)]
  simp only [if_true, Act.ensures_andThen, Act.ensures_bind, Desk.inWorld, Act.ensures_onPart]
  have released {cancels : List String} {w : σ} (left : R ⟨d.active, cancels, w⟩) :
      R ((⟨id :: d.active, cancels, w⟩ : Desk σ).released id false) := by
    rw [Desk.released, without_claimed driven]
    exact left
  apply (looks driven).mono
  · rintro (_ | e) w ⟨left, waits⟩
    · exact released (left d.cancels fun _ asked => asked)
    · cases status : e.status with
      | waiting =>
        simp only [status]
        exact (ensures_handed (x := cancel s) (e := e)).mpr (waits e rfl status)
      | pending =>
        simp only [status]
        exact released (left (joined id d.cancels) fun _ => mem_joined_of_mem)
      | _ =>
        simp only [status]
        exact released (left d.cancels fun _ asked => asked)
  · exact fun _ w left => released left

theorem requestCancel_spec {d : Desk σ} (valid : k.valid d.world) (id : String) :
    (requestCancel s id).Ensures d (fun _ => Requested k id d) fun _ => Requested k id d := by
  apply requestCancel_sound
  · exact fun _ => .of_same rfl ⟨valid, rfl, rfl, k.drift_refl _⟩
  intro idle
  apply (k.load valid id).mono _ fun _ _ none => none.elim
  rintro found w ⟨rfl, same⟩
  refine ⟨fun _ _ => .of_same rfl same, ?_⟩
  intro e stored waits
  have own := k.id_of_record valid stored
  have present : k.record w e.id ≠ none := by simp [same.record, own, stored]
  have can : e.status.canBecome .cancelled := by rw [waits]; rfl
  apply (cancel_spec (k := k) (by exact same.valid) present can).mono _ fun _ _ none => none.elim
  rintro - h' ⟨ended, noted, record, active, becomes⟩
  refine ⟨becomes.valid, ?_, k.drift_trans same.drift becomes.drift, becomes.sent.trans same.sent, ?_,
    .inr ⟨idle, e, ended, noted, stored, waits, ?_⟩⟩
  · show without id h'.desk.active = d.active
    rw [active, without_claimed idle]
  · intro other ne
    show k.record h'.desk.world other = _
    rw [becomes.record, Function.update_of_ne (by exact own ▸ ne)]
    exact congrFun same.record other
  · show k.record h'.desk.world id = _
    rw [becomes.record, record]
    exact own ▸ Function.update_self ..

end TriggerFlow.Run
