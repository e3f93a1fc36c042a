import TriggerFlow.Proofs.Run.Turn
import TriggerFlow.Proofs.Run.Chronicle
import TriggerFlow.Proofs.Run.Manner

/-!
# Acts between two versions of a record

While a run is driven and its stored record lives, the acts of a visit add to the stored log and to nothing else. What
happens in the meantime may lose the record, but does not end the run. Only when the record in hand is stored does the
stored one move on.
-/

/-!
## What a drive does to the records of all runs

Nothing is assumed here of the copy that is driven. While it is driven, every version that is stored of any run is a
proper one; what others ask of a run stays asked; and an entry that is answered by a request to cancel leaves the run
asked to stop. A visit leaves the stored record of the run in the state that it found it in, until the record in hand
is stored.
-/

namespace TriggerFlow.Run

variable {σ α : Type} {s : Surroundings σ} {k : Chronicle s} {sound : Prop} {id : String} {d d' d'' : Desk σ}

/-- How the records of all runs may change while one of them is driven. -/
structure Accounts (k : Chronicle s) (sound : Prop) (id : String) (d d' : Desk σ) : Prop extends
    Around k.toLedger id d d' where
  flags : ∀ run, run ≠ id → run ∈ d.cancels → run ∈ d'.cancels
  written : ∀ run, ∃ new, k.history d'.world run = k.history d.world run ++ new ∧
    Written (s.Spares run) (run = id → sound) (k.record d.world run) new (k.record d'.world run)

namespace Accounts

theorem refl (valid : k.valid d.world) : Accounts k sound id d d where
  toAround := .refl valid
  flags _ _ asked := asked
  written _ := ⟨[], by simp, .done _⟩

theorem trans (h : Accounts k sound id d d') (h' : Accounts k sound id d' d'') : Accounts k sound id d d'' where
  toAround := h.toAround.trans h'.toAround
  flags run ne asked := h'.flags run ne (h.flags run ne asked)
  written run := by
    obtain ⟨new, history, written⟩ := h.written run
    obtain ⟨more, history', written'⟩ := h'.written run
    exact ⟨new ++ more, by rw [history', history, List.append_assoc], written.trans written'⟩

/-- Nothing has changed that a ledger shows, and nothing has been noted. -/
theorem of_same (active : d'.active = d.active) (flags : ∀ run, run ≠ id → run ∈ d.cancels → run ∈ d'.cancels)
    (same : k.Same d.world d'.world) (notes : k.notes d'.world = k.notes d.world) : Accounts k sound id d d' where
  toAround := .of_same active same
  flags := flags
  written run := by
    refine ⟨[], by rw [Chronicle.history_same notes, List.append_nil], ?_⟩
    rw [same.record]
    exact .done _

/-- The record of the run itself has been written. -/
theorem of_written (active : d'.active = d.active) (flags : ∀ run, run ≠ id → run ∈ d.cancels → run ∈ d'.cancels)
    {e : Execution} (own : e.id = id) (proper : Proper sound (k.record d.world id) e)
    (becomes : k.Becomes d.world (Function.update (k.record d.world) id (some e)) d'.world)
    {new : List Note} (notes : k.notes d'.world = k.notes d.world ++ new)
    (versions : ∀ run, new.filterMap (Note.version? run) = if run = id then [e] else []) :
    Accounts k sound id d d' where
  toAround := .of_update active becomes
  flags := flags
  written run := by
    refine ⟨_, Chronicle.history_append notes run, ?_⟩
    rw [becomes.record, versions run]
    by_cases same : run = id
    · subst same
      rw [if_pos rfl, Function.update_self]
      refine (Written.single proper).mono ?_
      exact fun driver => driver rfl
    · rw [if_neg same, Function.update_of_ne same]
      exact .done _

theorem mono {sound' : Prop} (weaker : sound' → sound) (h : Accounts k sound id d d') :
    Accounts k sound' id d d' where
  toAround := h.toAround
  flags := h.flags
  written run := by
    obtain ⟨new, history, written⟩ := h.written run
    exact ⟨new, history, written.mono fun driver own => weaker (driver own)⟩

end Accounts

/-- The same, where no request to cancel is taken up. -/
structure Lasting (k : Chronicle s) (sound : Prop) (id : String) (d d' : Desk σ) : Prop extends
    Accounts k sound id d d' where
  flag : id ∈ d.cancels → id ∈ d'.cancels
  heard : ∀ run, k.heard d.world run < k.heard d'.world run → run ∈ d'.cancels

namespace Lasting

theorem asked (h : Lasting k sound id d d') {run : String} (asked : run ∈ d.cancels) : run ∈ d'.cancels := by
  by_cases own : run = id
  · subst own
    exact h.flag asked
  · exact h.flags run own asked

theorem refl (valid : k.valid d.world) : Lasting k sound id d d where
  toAccounts := .refl valid
  flag asked := asked
  heard _ more := absurd more (Nat.lt_irrefl _)

theorem trans (h : Lasting k sound id d d') (h' : Lasting k sound id d' d'') : Lasting k sound id d d'' where
  toAccounts := h.toAccounts.trans h'.toAccounts
  flag asked := h'.flag (h.flag asked)
  heard run more := by
    by_cases first : k.heard d.world run < k.heard d'.world run
    · exact h'.asked (h.heard run first)
    · exact h'.heard run (by omega)

theorem mono {sound' : Prop} (weaker : sound' → sound) (h : Lasting k sound id d d') : Lasting k sound' id d d' :=
  ⟨h.toAccounts.mono weaker, h.flag, h.heard⟩

/-- Nothing has changed but the time, and nothing has been noted. -/
theorem of_same (active : d'.active = d.active) (flags : ∀ run ∈ d.cancels, run ∈ d'.cancels)
    (same : k.Same d.world d'.world) (notes : k.notes d'.world = k.notes d.world) : Lasting k sound id d d' where
  toAccounts := .of_same active (fun run _ => flags run) same notes
  flag := flags id
  heard run more := by
    rw [Chronicle.heard_same notes] at more
    exact absurd more (Nat.lt_irrefl _)

end Lasting

end TriggerFlow.Run

/-! ## The acts of a visit -/

namespace TriggerFlow.Run

variable {σ α : Type} {s : Surroundings σ} {k : Chronicle s} {sound : Prop} {id : String} {d d' d'' : Desk σ}
  {h h' h'' : Held σ}

/-- A claimed run is in hand, and its stored record, if there is one, has not ended. -/
structure Attending (k : Chronicle s) (h : Held σ) : Prop where
  valid : k.valid h.desk.world
  claimed : h.record.id ∈ h.desk.active
  lives : ∀ e, k.record h.desk.world h.record.id = some e → e.isTerminal = false

/-- How a visit may change what is in hand before it is stored. -/
structure Attends (k : Chronicle s) (h h' : Held σ) : Prop where
  fits : Attending k h'
  run : SameRun h.record h'.record
  lasting : Lasting k True h.record.id h.desk h'.desk
  stored : ∀ e', k.record h'.desk.world h.record.id = some e' →
    ∃ e, k.record h.desk.world h.record.id = some e ∧ Onward e e'

namespace Attends

theorem refl (fits : Attending k h) : Attends k h h :=
  ⟨fits, .refl _, .refl fits.valid, fun e present => ⟨e, present, .refl e⟩⟩

theorem trans (a : Attends k h h') (a' : Attends k h' h'') : Attends k h h'' where
  fits := a'.fits
  run := a.run.trans a'.run
  lasting := a.lasting.trans (a.run.id ▸ a'.lasting)
  stored e'' present := by
    obtain ⟨e', present', on'⟩ := a'.stored e'' (by rwa [a.run.id])
    obtain ⟨e, present, on⟩ := a.stored e' (by rwa [← a.run.id])
    exact ⟨e, present, on.trans on'⟩

/-- What is known of the states of the stored record tells that it has not ended. -/
theorem of_stored (fits : Attending k h) (run : SameRun h.record h'.record)
    (lasting : Lasting k True h.record.id h.desk h'.desk) (stored : ∀ e', k.record h'.desk.world h.record.id = some e' →
      ∃ e, k.record h.desk.world h.record.id = some e ∧ Onward e e') : Attends k h h' where
  fits := by
    refine ⟨lasting.valid, ?_, ?_⟩
    · rw [run.id, lasting.active]
      exact fits.claimed
    · intro e' present
      obtain ⟨e, known, on⟩ := stored e' (by rwa [← run.id])
      rw [Execution.isTerminal, on.status]
      exact fits.lives e known
  run := run
  lasting := lasting
  stored := stored

/-- Nothing has changed that a ledger shows. -/
theorem of_same (fits : Attending k h) (run : SameRun h.record h'.record) (active : h'.desk.active = h.desk.active)
    (flags : ∀ run ∈ h.desk.cancels, run ∈ h'.desk.cancels) (same : k.Same h.desk.world h'.desk.world)
    (notes : k.notes h'.desk.world = k.notes h.desk.world) : Attends k h h' :=
  .of_stored fits run (.of_same active flags same notes) fun e present =>
    ⟨e, by rwa [same.record] at present, .refl e⟩

end Attends

/-- An entry that is logged while the stored record lives is stored with it. -/
theorem log_attends (fits : Attending k h) (nodeId action : String) (outcome : Outcome) (message : String)
    (data : Option Members) : (log s nodeId action outcome message data).Ensures h
      (fun _ => Attends k h) fun _ => Attends k h := by
  simp only [log, Act.ensures_bind, ensures_now, ensures_change, ensures_current, ensures_inWorld]
  generalize made : (⟨s.now h.desk.world, nodeId, action, outcome, message, data⟩ : LogEntry) = entry
  have stored := (k.append fits.valid h.record.id entry).and (k.append_notes fits.valid h.record.id entry)
  unfold Act.Ensures at stored ⊢
  rcases run : s.append h.record.id entry h.desk.world with ⟨failure | asked, w⟩ <;> rw [run] at stored
  · obtain ⟨⟨-, -, same⟩, notes⟩ := stored
    exact .of_same fits ⟨rfl, rfl, rfl⟩ rfl (fun _ asked => asked) same notes
  · obtain ⟨⟨e, present, becomes⟩, noted⟩ := stored
    have own := k.id_of_record fits.valid present
    have notes := noted e present
    have lives := fits.lives e present
    have proper : Proper True (k.record h.desk.world h.record.id) (logged e entry) := by
      rw [present]
      refine ⟨by simp, fun a same => Option.some.inj same ▸ lives, fun a same => Option.some.inj same ▸ .refl _, ?_⟩
      exact fun _ sense => (sense e rfl).logged lives entry
    have versions : ∀ run, (notesOf e entry asked).filterMap (Note.version? run) =
        if run = h.record.id then [logged e entry] else [] := by
      intro run
      by_cases same : run = h.record.id
      · rw [if_pos same, same, ← own, versions_notesOf]
      · rw [if_neg same, versions_notesOf_of_ne (by rw [own]; exact Ne.symm same)]
    have accounts {cancels : List String} (flags : ∀ run ∈ h.desk.cancels, run ∈ cancels) :
        Accounts k True h.record.id h.desk ⟨h.desk.active, cancels, w⟩ :=
      .of_written rfl (fun run _ => flags run) (e := logged e entry) own proper becomes notes versions
    have hears : ∀ run, k.heard w run = k.heard h.desk.world run + (notesOf e entry asked).count (.heard run) := by
      intro run
      rw [Chronicle.heard, notes, List.count_append, Chronicle.heard]
    have kept : ∀ e', k.record w h.record.id = some e' →
        ∃ e, k.record h.desk.world h.record.id = some e ∧ Onward e e' := by
      intro e' present'
      rw [becomes.record, Function.update_self] at present'
      exact ⟨e, present, Option.some.inj present' ▸ .logged e entry⟩
    cases asked with
    | true =>
      have flags : ∀ run ∈ h.desk.cancels, run ∈ joined h.record.id h.desk.cancels := fun _ => mem_joined_of_mem
      show Attends k h ⟨⟨h.desk.active, joined h.record.id h.desk.cancels, w⟩, logged h.record entry⟩
      refine .of_stored fits ⟨rfl, rfl, rfl⟩ ⟨accounts flags, flags _, ?_⟩ kept
      intro run more
      by_cases same : run = h.record.id
      · rw [same]
        exact mem_joined _ _
      · rw [hears] at more
        have none : (notesOf e entry true).count (.heard run) = 0 := by
          simp [notesOf, own, Ne.symm same]
        omega
    | false =>
      show Attends k h ⟨⟨h.desk.active, h.desk.cancels, w⟩, logged h.record entry⟩
      refine .of_stored fits ⟨rfl, rfl, rfl⟩ ⟨accounts fun _ asked => asked, fun asked => asked, ?_⟩ kept
      intro run more
      rw [hears] at more
      have none : (notesOf e entry false).count (.heard run) = 0 := by simp [notesOf]
      omega

/-- The record in hand is stored, if it may come next. -/
theorem persist_lasting (valid : k.valid h.desk.world)
    (proper : Proper sound (k.record h.desk.world h.record.id) h.record) : (persist s).Ensures h
      (fun _ h' => h'.record = h.record ∧ k.sent h'.desk.world = k.sent h.desk.world ∧
        k.record h'.desk.world h.record.id = some h.record ∧ Lasting k sound h.record.id h.desk h'.desk)
      fun _ _ => False := by
  simp only [persist, Act.ensures_bind, ensures_current, ensures_inWorld, true_and]
  refine ((k.save valid h.record).and (k.save_notes valid h.record)).mono ?_ fun _ _ none => none.1
  rintro - w ⟨becomes, notes⟩
  refine ⟨becomes.sent, ?_, .of_written rfl (fun _ _ asked => asked) rfl proper becomes notes (versions_wrote _),
    fun asked => asked, ?_⟩
  · show k.record w h.record.id = _
    rw [becomes.record, Function.update_self]
  · intro run more
    have same : k.heard w run = k.heard h.desk.world run := by
      rw [Chronicle.heard, notes, List.count_append, Chronicle.heard]
      simp
    exact absurd (same ▸ more) (Nat.lt_irrefl _)

/-- How a last entry and the end of a run have come to be stored, if its record is not lost. -/
structure Closed (k : Chronicle s) (sound : Prop) (h h' : Held σ) : Prop where
  lasting : Lasting k sound h.record.id h.desk h'.desk
  sent : k.sent h'.desk.world = k.sent h.desk.world
  stored : k.record h'.desk.world h.record.id = some h'.record ∨
    k.record h.desk.world h.record.id = none ∧ k.record h'.desk.world h.record.id = none

/-- A last entry is logged, and the record is stored with the end that it has come to. -/
theorem close_lasting (sound : Prop) (fits : Attending k h) (nodeId action : String) (outcome : Outcome)
    (message : String)
    (data : Option Members) (ends : h.record.status = .cancelled ∨ h.record.status = .failed)
    (sense : sound → (∀ e, k.record h.desk.world h.record.id = some e → e.error = none) → ∀ noted,
      (logged h.record ⟨noted, nodeId, action, outcome, message, data⟩).WellFormed) :
    (do
      log s nodeId action outcome message data
      persist s : Act (Held σ) Unit).Ensures h
      (fun _ h' => (∃ noted, h'.record = logged h.record ⟨noted, nodeId, action, outcome, message, data⟩) ∧
        k.record h'.desk.world h.record.id = some h'.record ∧ Closed k sound h h')
      (fun _ h' => (∃ noted, h'.record = logged h.record ⟨noted, nodeId, action, outcome, message, data⟩) ∧
        k.record h.desk.world h.record.id = none ∧ Closed k sound h h') := by
  have noted := (log_attends fits nodeId action outcome message data).and
    (log_spec (k := k.toLedger) fits.valid nodeId action outcome message data)
  refine Act.ensures_bind.mpr (noted.mono ?_ ?_)
  · rintro - h₁ ⟨attends, e, present, record, -, -, becomes⟩
    generalize entered : (⟨s.now h.desk.world, nodeId, action, outcome, message, data⟩ : LogEntry) = entry at *
    have own : h₁.record.id = h.record.id := attends.run.id
    have now : k.record h₁.desk.world h.record.id = some (logged e entry) := by
      rw [becomes.record, Function.update_self]
    have lives : (logged e entry).isTerminal = false := fits.lives e present
    have status : h₁.record.status = h.record.status := by rw [record]; rfl
    have proper : Proper sound (k.record h₁.desk.world h₁.record.id) h₁.record := by
      rw [own, now]
      refine ⟨by simp, fun a same => Option.some.inj same ▸ lives, ?_, ?_⟩
      · intro a same
        rw [← Option.some.inj same]
        exact .of_lives lives (by rwa [status])
      · intro driver first
        have error : e.error = none := (first _ rfl).error_eq lives
        rw [record, ← entered]
        refine sense driver ?_ _
        intro e' present'
        rw [← Option.some.inj (present.symm.trans present')]
        exact error
    refine (persist_lasting attends.fits.valid proper).mono ?_ fun _ _ none => none.elim
    rintro - h₂ ⟨same, sent, stored, lasting⟩
    rw [own] at stored lasting
    have now₂ : k.record h₂.desk.world h.record.id = some h₂.record := by rw [stored, same]
    refine ⟨⟨s.now h.desk.world, by rw [same, record, entered]⟩, now₂, ?_, sent.trans becomes.sent, .inl now₂⟩
    exact (attends.lasting.mono fun _ => trivial).trans lasting
  · rintro _ h₁ ⟨attends, -, missing, record, -, same⟩
    refine ⟨⟨s.now h.desk.world, record⟩, missing, attends.lasting.mono fun _ => trivial, same.sent, .inr ⟨missing, ?_⟩⟩
    rw [same.record]
    exact missing

/-- A run that may be cancelled is cancelled, in hand if its record is lost. -/
theorem cancel_closed (sound : Prop) (fits : Attending k h) (can : h.record.status.canBecome .cancelled)
    (error : sound → (∀ e, k.record h.desk.world h.record.id = some e → e.error = none) → h.record.error = none) :
    (cancel s).Ensures h
      (fun _ h' => (∃ ended noted, h'.record = cancelledAt h.record ended noted) ∧
        k.record h'.desk.world h.record.id = some h'.record ∧ Closed k sound h h')
      (fun _ h' => (∃ ended noted, h'.record = cancelledAt h.record ended noted) ∧
        k.record h.desk.world h.record.id = none ∧ Closed k sound h h') := by
  have moved : h.record.become? .cancelled (s.now h.desk.world) = some { h.record with
      status := .cancelled, completedAt := some (s.now h.desk.world), wait := none } := by
    rw [Execution.become?, if_pos can]
    rfl
  refine Act.ensures_bind.mpr (ensures_become.mpr ⟨?_, ?_⟩)
  · intro e same
    rw [moved] at same
    rw [← Option.some.inj same]
    have fits₁ : Attending k ({ h with record := { h.record with
        status := .cancelled, completedAt := some (s.now h.desk.world), wait := none } } : Held σ) :=
      ⟨fits.valid, fits.claimed, fits.lives⟩
    have closed := close_lasting sound fits₁ (h.record.nodeId.getD "") "Cancel" .warning "Execution cancelled" none
      (.inl rfl) (fun driver first noted => .cancelledAt (error driver first) (s.now h.desk.world) noted)
    refine Act.ensures_bind.mpr (ensures_current.mpr (closed.mono ?_ ?_))
    · rintro - h' ⟨⟨noted, record⟩, stored, closed⟩
      exact ⟨⟨_, noted, record⟩, stored, closed.lasting, closed.sent, closed.stored⟩
    · rintro _ h' ⟨⟨noted, record⟩, missing, closed⟩
      exact ⟨⟨_, noted, record⟩, missing, closed.lasting, closed.sent, closed.stored⟩
  · intro none
    rw [moved] at none
    cases none

/-- A run that has ended is not ended again by a failure. -/
theorem abort_of_ended (ended : h.record.isTerminal) (failure : Failure) : abort s failure h = (.ok (), h) := by
  rw [abort, Act.bind_run_ok (show Held.current h = (.ok h.record, h) from rfl), if_pos ended]
  rfl

/-- A failure of its own ends a run that has not ended, and is stored if the record is not lost. -/
theorem abort_closed (sound : Prop) (fits : Attending k h) (lives : h.record.isTerminal = false) (failure : Failure) :
    (abort s failure).Ensures h
      (fun _ h' => (∃ ended noted, h'.record = abortedAt h.record failure.message ended noted) ∧ Closed k sound h h')
      fun _ _ => False := by
  refine Act.ensures_bind.mpr (ensures_current.mpr ?_)
  have can : h.record.status.canBecome .failed := Status.canEnd lives (.inr rfl)
  have moved : ({ h.record with error := some failure.message } : Execution).become? .failed
      (s.now h.desk.world) = some { h.record with
        status := .failed, completedAt := some (s.now h.desk.world), wait := none
        error := some failure.message } := by
    rw [Execution.become?, if_pos can]
    rfl
  simp only [lives, Bool.false_eq_true, if_false, Act.ensures_bind, ensures_change, ensures_become, moved,
    Option.some.injEq, forall_eq', reduceCtorEq, false_implies, and_true, Act.ensures_recover, Act.ensures_pure]
  have fits₁ : Attending k ({ h with record := { h.record with
      status := .failed, completedAt := some (s.now h.desk.world), wait := none
      error := some failure.message } } : Held σ) := ⟨fits.valid, fits.claimed, fits.lives⟩
  have closed := close_lasting sound fits₁ (h.record.nodeId.getD "") "Engine" .error failure.message none
    (.inr rfl) (fun _ _ noted => .abortedAt h.record failure.message (s.now h.desk.world) noted)
  refine Act.ensures_bind.mp (closed.mono ?_ ?_)
  · rintro - h' ⟨⟨noted, record⟩, -, closed⟩
    exact ⟨⟨_, noted, record⟩, closed.lasting, closed.sent, closed.stored⟩
  · rintro _ h' ⟨⟨noted, record⟩, -, closed⟩
    exact ⟨⟨_, noted, record⟩, closed.lasting, closed.sent, closed.stored⟩

/-- What a request to cancel a run may change: what a ledger shows of it, the requests, and versions of records. -/
structure Asked (k : Chronicle s) (id : String) (d d' : Desk σ) : Prop extends Requested k.toLedger id d d' where
  flags : ∀ run ∈ d.cancels, run ∈ d'.cancels
  heard : ∀ run, k.heard d.world run < k.heard d'.world run → run ∈ d'.cancels
  written : ∀ run, ∃ new, k.history d'.world run = k.history d.world run ++ new ∧
    Written (s.Spares run) True (k.record d.world run) new (k.record d'.world run)

theorem Asked.of_same (active : d'.active = d.active) (flags : ∀ run ∈ d.cancels, run ∈ d'.cancels)
    (same : k.Same d.world d'.world) (notes : k.notes d'.world = k.notes d.world) : Asked k id d d' where
  toRequested := .of_same active same
  flags := flags
  heard run more := by
    rw [Chronicle.heard_same notes] at more
    exact absurd more (Nat.lt_irrefl _)
  written run := by
    refine ⟨[], by rw [Chronicle.history_same notes, List.append_nil], ?_⟩
    rw [same.record]
    exact .done _

/-- Whatever becomes of a request, all that it stores are proper versions. -/
theorem requestCancel_asked (valid : k.valid d.world) (id : String) :
    (requestCancel s id).Ensures d (fun _ => Asked k id d) fun _ => Asked k id d := by
  suffices rest : (requestCancel s id).Ensures d
      (fun _ d' => Requested k.toLedger id d d' → Asked k id d d')
      (fun _ d' => Requested k.toLedger id d d' → Asked k id d d') from
    (rest.and (requestCancel_spec (k := k.toLedger) valid id)).mono (fun _ _ both => both.1 both.2)
      fun _ _ both => both.1 both.2
  apply requestCancel_sound (R := fun d' => Requested k.toLedger id d d' → Asked k id d d')
  · exact fun _ _ => .of_same rfl (fun _ => mem_joined_of_mem) ⟨valid, rfl, rfl, k.drift_refl _⟩ rfl
  intro idle
  apply ((k.load valid id).and (k.load_notes valid id)).mono _ fun _ _ none => none.1.elim
  rintro found w ⟨⟨rfl, same⟩, notes⟩
  refine ⟨fun cancels flags _ => .of_same rfl flags same notes, ?_⟩
  intro e stored status
  have own := k.id_of_record valid stored
  have known : k.record w e.id = some e := by rw [same.record, own, stored]
  have lives : e.isTerminal = false := by rw [Execution.isTerminal, status]; rfl
  have fits : Attending k (⟨⟨id :: d.active, d.cancels, w⟩, e⟩ : Held σ) := by
    refine ⟨same.valid, by simp [own], ?_⟩
    intro e' present
    exact Option.some.inj (known.symm.trans present) ▸ lives
  have closed := cancel_closed True fits (by rw [status]; rfl) fun _ first => first e known
  have done {h' : Held σ} (closed : Closed k True (⟨⟨id :: d.active, d.cancels, w⟩, e⟩ : Held σ) h')
      (requested : Requested k.toLedger id d (h'.desk.released id false)) :
      Asked k id d (h'.desk.released id false) := by
    refine ⟨requested, fun run asked => closed.lasting.asked asked, ?_, ?_⟩
    · intro run more
      rw [← Chronicle.heard_same notes run] at more
      exact closed.lasting.heard run more
    · intro run
      obtain ⟨new, history, written⟩ := closed.lasting.written run
      rw [← Chronicle.history_same notes run, ← same.record]
      exact ⟨new, history, written.mono fun _ _ => trivial⟩
  apply closed.mono
  · exact fun _ _ closed => done closed.2.2
  · exact fun _ _ closed => done closed.2.2

/-- A request of anybody's leaves a run that is driven to go on, asked to stop or not. -/
theorem Attends.of_asked (fits : Attending k h) (asked : Asked k id h.desk d) : Attends k h { h with desk := d } := by
  have own := asked.own_of_claimed fits.claimed
  refine .of_stored fits (.refl _) ?_ ?_
  · refine ⟨⟨asked.around, fun run _ => asked.flags run, ?_⟩, asked.flags _, asked.heard⟩
    intro run
    obtain ⟨new, history, written⟩ := asked.written run
    exact ⟨new, history, written.mono fun _ => trivial⟩
  · intro e present
    rw [own] at present
    exact ⟨e, present, .refl e⟩

/-- The record of a run has been lost. -/
theorem Attends.of_lost {w : σ} (fits : Attending k h) (unspared : ¬ s.Spares id)
    (becomes : k.Becomes h.desk.world (Function.update (k.record h.desk.world) id none) w)
    (notes : k.notes w = k.notes h.desk.world) : Attends k h { h with desk := { h.desk with world := w } } := by
  have left : ∀ run e, k.record w run = some e → k.record h.desk.world run = some e := by
    intro run e present
    rw [becomes.record] at present
    by_cases same : run = id
    · simp [same] at present
    · rwa [Function.update_of_ne same] at present
  refine .of_stored fits (.refl _) ?_ fun e present => ⟨e, left _ e present, .refl e⟩
  refine ⟨⟨.of_lost unspared becomes, fun _ _ asked => asked, ?_⟩, fun asked => asked, ?_⟩
  · intro run
    refine ⟨[], by rw [Chronicle.history_same notes, List.append_nil], ?_⟩
    show Written _ _ (k.record h.desk.world run) [] (k.record w run)
    rw [becomes.record]
    by_cases same : run = id
    · rw [same, Function.update_self]
      exact .lost unspared (.done _)
    · rw [Function.update_of_ne same]
      exact .done _
  · intro run more
    rw [Chronicle.heard_same notes] at more
    exact absurd more (Nat.lt_irrefl _)

/-- An action goes out for the run in hand. -/
theorem Attends.of_respond (fits : Attending k h) {sending : Sending} (own : sending.runId = h.record.id) :
    Attends k h { h with desk := { h.desk with world := (s.respond sending h.desk.world).2.2 } } := by
  obtain ⟨-, record, -⟩ := k.respond fits.valid sending
  have notes := k.respond_notes fits.valid sending
  refine .of_stored fits (.refl _) ?_ ?_
  · refine ⟨⟨.of_respond fits.valid own, fun _ _ asked => asked, ?_⟩, fun asked => asked, ?_⟩
    · intro run
      refine ⟨[], by rw [Chronicle.history_same notes, List.append_nil], ?_⟩
      rw [record]
      exact .done _
    · intro run more
      rw [Chronicle.heard_same notes] at more
      exact absurd more (Nat.lt_irrefl _)
  · intro e present
    rw [record] at present
    exact ⟨e, present, .refl e⟩

theorem happen_attends (fits : Attending k h) {effect : Action.Effect} (caused : s.Causes effect) :
    (happen s effect).Ensures h
      (fun _ => Attends k h) fun _ => Attends k h := by
  have plain (records : afterEffect (k.record h.desk.world) effect = k.record h.desk.world) :
      Act.Ensures (Held.inWorld (s.suffer effect)) h (fun _ => Attends k h) fun _ => Attends k h := by
    have unchanged := (k.suffer_same fits.valid records).and (k.suffer_notes fits.valid effect)
    refine ensures_inWorld.mpr (unchanged.mono ?_ ?_)
    · rintro - w ⟨same, notes⟩
      exact .of_same fits (.refl _) rfl (fun _ asked => asked) same notes
    · rintro _ w ⟨same, notes⟩
      exact .of_same fits (.refl _) rfl (fun _ asked => asked) same notes
  cases effect with
  | pass micros => exact plain rfl
  | draw => exact plain rfl
  | cancel id =>
    refine Act.ensures_bind.mpr (ensures_atDesk.mpr ((requestCancel_asked fits.valid id).mono ?_ ?_))
    · exact fun _ d asked => .of_asked fits asked
    · exact fun _ d asked => .of_asked fits asked
  | forget id =>
    have suffered := (k.suffer fits.valid (.forget id)).and (k.suffer_notes fits.valid (.forget id))
    refine ensures_inWorld.mpr (suffered.mono ?_ ?_)
    · rintro - w ⟨becomes, notes⟩
      exact .of_lost fits (fun spares => caused.spared id spares rfl) becomes notes
    · rintro _ w ⟨same, notes⟩
      exact .of_same fits (.refl _) rfl (fun _ asked => asked) same notes

/-- Whatever is done on a visit before the record is stored, the run is attended to. -/
def attending (k : Chronicle s) : Manner.Visiting s where
  fits := Attending k
  goes := Attends k
  refl := .refl
  trans := .trans
  fits_of_goes a := a.fits
  change fits retouched := .of_stored fits retouched.run (.refl fits.valid) fun e present => ⟨e, present, .refl e⟩
  merges fits := .of_stored fits ⟨rfl, rfl, rfl⟩ (.refl fits.valid) fun e present => ⟨e, present, .refl e⟩
  log := log_attends
  respond fits own := .of_respond fits own
  happen fits caused := happen_attends fits caused

end TriggerFlow.Run
