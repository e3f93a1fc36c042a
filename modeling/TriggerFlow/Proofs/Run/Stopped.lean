import TriggerFlow.Proofs.Run.Operations

/-!
# A request to stop is kept

A run is stopped when its stored record has nothing ahead of it but an end: it has ended, or somebody has asked for it
to be cancelled while it had not begun or waited. Whatever is done afterwards leaves it stopped and sends nothing out
for it, as long as its record is not lost and nobody starts it by a copy that has ended already, for such a copy takes
up the request and does nothing.
-/

namespace TriggerFlow.Run

variable {σ : Type} {s : Surroundings σ} {k : Chronicle s} {sound : Prop} {expected : Status} {limits : Limits}
  {id : String} {d d' d'' : Desk σ} {e r : Execution} {driven : Driven}

/-- The stored record of a run does not go on: if it has not begun, or waits, somebody has asked it to stop. -/
def Stopped (k : Chronicle s) (id : String) (d : Desk σ) : Prop :=
  ∃ r, k.record d.world id = some r ∧ (r.status = .pending ∨ r.status = .waiting → id ∈ d.cancels)

/-- A run that is stopped stays so, and nothing is sent out for it. -/
structure Quiet (k : Chronicle s) (id : String) (d d' : Desk σ) : Prop where
  stopped : Stopped k id d'
  calls : k.calls d'.world id = k.calls d.world id

namespace Quiet

theorem refl (stopped : Stopped k id d) : Quiet k id d d := ⟨stopped, rfl⟩

theorem trans (quiet : Quiet k id d d') (quiet' : Quiet k id d' d'') : Quiet k id d d'' :=
  ⟨quiet'.stopped, quiet'.calls.trans quiet.calls⟩

end Quiet

namespace Stopped

variable (stopped : Stopped k id d)

include stopped

/-- The record is as it was, or the run has been cancelled meanwhile; what has been asked is still asked. -/
theorem of_meanwhile (meanwhile : Meanwhile (k.record d.world id) (k.record d'.world id))
    (kept : k.record d'.world id ≠ none) (flag : id ∈ d.cancels → id ∈ d'.cancels) : Stopped k id d' := by
  obtain ⟨r, stored, asked⟩ := stopped
  rw [stored] at meanwhile
  generalize now : k.record d'.world id = found at meanwhile kept
  cases meanwhile with
  | same => exact ⟨r, now, fun ahead => flag (asked ahead)⟩
  | cancelled _ ended noted => exact ⟨_, now, by simp [cancelledAt]⟩
  | lost => exact absurd rfl kept

theorem of_same (same : k.Same d.world d'.world) (flag : id ∈ d.cancels → id ∈ d'.cancels) : Quiet k id d d' := by
  constructor
  · obtain ⟨r, stored, asked⟩ := stopped
    exact ⟨r, by rw [same.record, stored], fun ahead => flag (asked ahead)⟩
  · simp [Books.calls, same.sent]

/-- Another run is driven. -/
theorem of_accounts (spares : s.Spares id) {other : String} (ne : id ≠ other) (accounts : Accounts k sound other d d') :
    Quiet k id d d' := by
  have ⟨r, stored, _⟩ := stopped
  have kept : k.record d'.world id ≠ none := accounts.kept id spares (by simp [stored])
  exact ⟨stopped.of_meanwhile (accounts.others id ne) kept (accounts.flags id ne), accounts.calls_of_ne ne⟩

/-- Somebody makes a request to cancel a run, this one or another. -/
theorem of_asked {other : String} (asked : Asked k other d d') : Quiet k id d d' := by
  have ⟨r, stored, _⟩ := stopped
  have present : k.record d.world id ≠ none := by simp [stored]
  constructor
  · by_cases own : id = other
    · subst own
      exact stopped.of_meanwhile asked.meanwhile (asked.kept present) (asked.flags id)
    · rw [← asked.others id own] at present
      apply stopped.of_meanwhile _ present (asked.flags id)
      rw [asked.others id own]
      exact .same _
  · simp [Books.calls, asked.sent]

end Stopped

/-- A copy that lives takes up the request to cancel its run and is cancelled, in the store too. -/
theorem Conducted.cancelled (conducted : Conducted k sound expected e d driven d') (asked : e.id ∈ d.cancels)
    (lives : e.isTerminal = false) (stored : k.record d.world e.id = some r) (standing : r.status = expected) :
    (∃ ended noted, driven.copy = cancelledAt e ended noted) ∧ k.record d'.world e.id = some driven.copy ∧
      k.sent d'.world = k.sent d.world := by
  obtain ⟨h', conduct, copy, -, rfl⟩ := conducted.ends
  rw [copy]
  cases conduct with
  | moved other known differs =>
    rw [Option.some.inj (stored.symm.trans known)] at standing
    exact absurd standing differs
  | idle _ _ unasked => exact absurd asked (unasked lives)
  | obeyed _ obeyed =>
    rcases obeyed.stored with now | ⟨lost, -⟩
    · exact ⟨obeyed.record, now, obeyed.sent⟩
    · cases stored.symm.trans lost
  | driven _ unasked => exact absurd asked unasked

/-- A stopped run is driven by a copy that lives. -/
theorem Stopped.of_conducted (stopped : Stopped k e.id d) (conducted : Conducted k sound expected e d driven d')
    (idle : expected = .pending ∨ expected = .waiting) (lives : e.isTerminal = false) : Quiet k e.id d d' := by
  have ⟨r, stored, asked⟩ := stopped
  by_cases standing : r.status = expected
  · have flag : e.id ∈ d.cancels := asked (standing ▸ idle)
    obtain ⟨⟨ended, noted, record⟩, now, sent⟩ := conducted.cancelled flag lives stored standing
    exact ⟨⟨_, now, by simp [record, cancelledAt]⟩, by simp [Books.calls, sent]⟩
  · obtain ⟨-, same, -, cancels⟩ := conducted.untouched stored standing
    exact stopped.of_same same fun flag => by rwa [cancels lives]

section Operations

theorem Stopped.start (stopped : Stopped k id d) (spares : s.Spares id) (limits : Limits) (valid : k.valid d.world)
    (spry : e.id = id → e.isTerminal = false) :
    (Run.start s limits e).Ensures d (fun _ => Quiet k id d) fun _ => Quiet k id d := by
  apply (start_conducted limits valid e).mono
  · intro driven d' conducted
    by_cases own : e.id = id
    · subst own
      exact stopped.of_conducted conducted (.inl rfl) (spry rfl)
    · exact stopped.of_accounts spares (Ne.symm own) conducted.accounts
  · rintro _ d' ⟨rfl, -⟩
    exact .refl stopped

theorem Stopped.resume (stopped : Stopped k id d) (spares : s.Spares id) (limits : Limits) (valid : k.valid d.world)
    (e : Execution) (time : Option Instant) (context : Members) :
    (Run.resume s limits e time context).Ensures d (fun _ => Quiet k id d) fun _ => Quiet k id d := by
  apply (resume_conducted limits valid e time context).mono _ fun _ _ none => none.elim
  rintro driven d' (⟨-, rfl⟩ | ⟨waits, conducted⟩)
  · exact .refl stopped
  · by_cases own : e.id = id
    · subst own
      exact stopped.of_conducted conducted (.inr rfl) (Execution.lives_of_waiting waits)
    · exact stopped.of_accounts spares (Ne.symm own) conducted.accounts

theorem Stopped.resumeEach (spares : s.Spares id) (limits : Limits) (time : Option Instant) (context : Members) :
    ∀ (found : List Execution) {d : Desk σ}, k.valid d.world → Stopped k id d →
      (Run.resumeEach s limits time context found).Ensures d (fun _ => Quiet k id d) fun _ => Quiet k id d
  | [], d, _, stopped => .refl stopped
  | e :: rest, d, valid, stopped => by
    have first := (stopped.resume spares limits valid e time context).and (resume_progress limits valid e time context)
    apply Act.ensures_bind.mpr
    apply first.mono _ fun _ _ both => both.1
    rintro driven d₁ ⟨quiet, progress⟩
    apply Act.ensures_bind.mpr
    apply (Stopped.resumeEach spares limits time context rest progress.valid quiet.stopped).mono
    · intro moved d₂ quiet'
      split <;> exact quiet.trans quiet'
    · exact fun _ d₂ quiet' => quiet.trans quiet'

theorem Stopped.resumeDue (stopped : Stopped k id d) (spares : s.Spares id) (limits : Limits) (valid : k.valid d.world)
    (time : Option Instant) (context : Members) :
    (Run.resumeDue s limits time context).Ensures d (fun _ => Quiet k id d) fun _ => Quiet k id d := by
  apply Act.ensures_bind.mpr
  apply Act.ensures_onPart.mpr
  apply (k.waiting valid).mono
  · rintro found w ⟨same, -⟩
    have looked : Quiet k id d { d with world := w } := stopped.of_same same fun flag => flag
    apply (Stopped.resumeEach spares limits time context found (by exact same.valid) looked.stopped).mono
    · exact fun _ _ quiet => looked.trans quiet
    · exact fun _ _ quiet => looked.trans quiet
  · exact fun _ w same => stopped.of_same same fun flag => flag

/-- Nobody starts the run by a copy that has ended. -/
def Operation.Spry (id : String) : Operation → Prop
  | .start copy => copy.id = id → copy.isTerminal = false
  | _ => True

theorem Stopped.after (stopped : Stopped k id d) (spares : s.Spares id) (limits : Limits) (valid : k.valid d.world)
    (operation : Operation) (spry : operation.Spry id) : Quiet k id d (operation.after s limits d) := by
  have unchanged : k.Same d.world d.world := ⟨valid, rfl, rfl, k.drift_refl _⟩
  apply Act.Ensures.state
  cases operation with
  | start copy => exact Act.ensures_bind.mpr (stopped.start spares limits valid spry)
  | resume copy time context => exact Act.ensures_bind.mpr (stopped.resume spares limits valid copy time context)
  | resumeDue time context => exact stopped.resumeDue spares limits valid time context
  | requestCancel other =>
    apply Act.ensures_bind.mpr
    apply (requestCancel_asked valid other).mono
    · exact fun _ _ asked => stopped.of_asked asked
    · exact fun _ _ asked => stopped.of_asked asked
  | claim other =>
    apply Act.ensures_bind.mpr
    apply ensures_claim.mpr
    split
    · exact .refl stopped
    · exact stopped.of_same unchanged fun flag => flag
  | release other => exact stopped.of_same unchanged fun flag => flag

/-- Whatever is done, a stopped run stays stopped. -/
theorem Stopped.afterAll (spares : s.Spares id) (limits : Limits) : ∀ (operations : List Operation) {d : Desk σ},
    k.valid d.world → Stopped k id d → (∀ operation ∈ operations, operation.Spry id) →
      Quiet k id d (Run.afterAll s limits operations d)
  | [], _, _, stopped, _ => .refl stopped
  | operation :: rest, d, valid, stopped, spry => by
    have first : Quiet k id d (operation.after s limits d) :=
      stopped.after spares limits valid operation (spry operation List.mem_cons_self)
    have valid' : k.valid (operation.after s limits d).world := (operation.progress limits valid).valid
    have spry' : ∀ operation ∈ rest, operation.Spry id := fun later mem => spry later (List.mem_cons_of_mem _ mem)
    exact first.trans (Stopped.afterAll spares limits rest valid' first.stopped spry')

/-- A request to cancel a run that has not begun, waits or is driven leaves it stopped. -/
theorem requestCancel_stops (valid : k.valid d.world) (stored : k.record d.world id = some r)
    (ahead : r.status = .pending ∨ r.status = .waiting ∨ id ∈ d.active) :
    (requestCancel s id).Ensures d (fun _ => Quiet k id d) fun _ _ => False := by
  apply ((requestCancel_answered valid id).and (requestCancel_asked valid id)).mono
  · rintro answer d' ⟨answered, asked⟩
    refine ⟨?_, by simp [Books.calls, asked.sent]⟩
    cases answered with
    | driven busy => exact ⟨r, stored, fun _ => mem_joined _ _⟩
    | cancelled _ _ _ ended noted now => exact ⟨_, now, by simp [cancelledAt]⟩
    | noted _ _ _ same flag => exact ⟨r, by rw [same.record, stored], fun _ => flag⟩
    | left idle known begun =>
      rw [Option.some.inj (known.symm.trans stored)] at begun
      rcases ahead with pending | waits | busy
      · exact absurd pending begun.2
      · exact absurd waits begun.1
      · exact absurd busy idle
  · rintro _ _ ⟨⟨-, -, missing⟩, -⟩
    cases stored.symm.trans missing

end Operations

end TriggerFlow.Run
