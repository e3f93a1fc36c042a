import TriggerFlow.Proofs.Run.Manner

/-!
# What a drive leaves alone

Nothing is assumed here of the graph, or of the copy that is driven. Whatever a drive comes to, the run in
hand keeps its identity and its graph, its log only grows, and the rest of the desk changes as it may around
a run that is being driven. Each act has this property, and it passes from the acts to their sequences.
-/

namespace TriggerFlow.Run

variable {σ α β : Type} {s : Surroundings σ} {k : Ledger s}

/-- What may happen to a stored record in the meantime leaves it a record of the same run. -/
theorem Meanwhile.own {c : Execution} {known found : Option Execution} (meanwhile : Meanwhile known found)
    (own : ∀ e, known = some e → SameRun c e) : ∀ e, found = some e → SameRun c e := by
  intro e present
  cases meanwhile with
  | same => exact own e present
  | cancelled e' ended noted waits =>
    cases present
    exact (own e' rfl).trans ⟨rfl, rfl, rfl⟩
  | lost => cases present

/-- A claimed run is in hand, and what is stored of it is a record of the same run. -/
structure Ready (k : Ledger s) (h : Held σ) : Prop where
  valid : k.valid h.desk.world
  claimed : h.record.id ∈ h.desk.active
  own : ∀ e, k.record h.desk.world h.record.id = some e → SameRun h.record e

/-- How a drive may change what is in hand. -/
structure Proceeds (k : Ledger s) (h h' : Held σ) : Prop where
  ready : Ready k h'
  run : SameRun h.record h'.record
  log : h.record.log <+: h'.record.log
  around : Around k h.record.id h.desk h'.desk

/-- From what is in hand, an act proceeds, whether it fails or not. -/
def Goes (k : Ledger s) (x : Act (Held σ) α) (h : Held σ) : Prop :=
  x.Ensures h (fun _ => Proceeds k h) fun _ => Proceeds k h

/-- An act proceeds with any run in hand. -/
def Keeps (k : Ledger s) (x : Act (Held σ) α) : Prop := ∀ h, Ready k h → Goes k x h

namespace Proceeds

variable {h h' h'' : Held σ}

theorem refl (ready : Ready k h) : Proceeds k h h :=
  ⟨ready, .refl _, List.prefix_refl _, .refl ready.valid⟩

theorem trans (p : Proceeds k h h') (p' : Proceeds k h' h'') : Proceeds k h h'' where
  ready := p'.ready
  run := p.run.trans p'.run
  log := p.log.trans p'.log
  around := p.around.trans (p.run.id ▸ p'.around)

/-- Only the record in hand has changed. -/
theorem of_change (ready : Ready k h) {e : Execution} (run : SameRun h.record e)
    (log : h.record.log <+: e.log) : Proceeds k h { h with record := e } where
  ready := ⟨ready.valid, by simpa [run.id] using ready.claimed,
    fun stored present => run.symm.trans (ready.own stored (by simpa [run.id] using present))⟩
  run := run
  log := log
  around := .refl ready.valid

/-- Nothing has changed that is kept of the runs. -/
theorem of_same (ready : Ready k h) (run : SameRun h.record h'.record)
    (log : h.record.log <+: h'.record.log) (active : h'.desk.active = h.desk.active)
    (same : k.Same h.desk.world h'.desk.world) : Proceeds k h h' where
  ready := ⟨same.valid, by rw [run.id, active]; exact ready.claimed, fun e present =>
    run.symm.trans (ready.own e (by rwa [run.id, same.record] at present))⟩
  run := run
  log := log
  around := .of_same active same

/-- The stored record of the run has been replaced by another one of the same run. -/
theorem of_update (ready : Ready k h) (run : SameRun h.record h'.record)
    (log : h.record.log <+: h'.record.log) (active : h'.desk.active = h.desk.active) {e : Execution}
    (stored : SameRun h.record e) (becomes : k.Becomes h.desk.world
      (Function.update (k.record h.desk.world) h.record.id (some e)) h'.desk.world) :
    Proceeds k h h' where
  ready := ⟨becomes.valid, by rw [run.id, active]; exact ready.claimed, fun e' present => by
    rw [run.id, becomes.record, Function.update_self] at present
    exact run.symm.trans (Option.some.inj present ▸ stored)⟩
  run := run
  log := log
  around := .of_update active becomes

/-- Somebody has asked for a run to be cancelled. -/
theorem of_requested (ready : Ready k h) {id : String} {d : Desk σ} (asked : Requested k id h.desk d) :
    Proceeds k h { h with desk := d } := by
  have own := asked.own_of_claimed ready.claimed
  exact ⟨⟨asked.valid, asked.active ▸ ready.claimed, fun e present => ready.own e (own ▸ present)⟩,
    .refl _, List.prefix_refl _, asked.around⟩

/-- The record of a run has been lost. -/
theorem of_lost (ready : Ready k h) {id : String} {w : σ} (unspared : ¬ s.Spares id)
    (becomes : k.Becomes h.desk.world (Function.update (k.record h.desk.world) id none) w) :
    Proceeds k h { h with desk := { h.desk with world := w } } := by
  have left : ∀ other e, k.record w other = some e → k.record h.desk.world other = some e := by
    intro other e present
    rw [becomes.record] at present
    by_cases same : other = id
    · simp [same] at present
    · rwa [Function.update_of_ne same] at present
  exact ⟨⟨becomes.valid, ready.claimed, fun e present => ready.own e (left _ e present)⟩, .refl _,
    List.prefix_refl _, .of_lost unspared becomes⟩

end Proceeds

/-- An act on the surroundings that changes nothing that the view shows. -/
theorem Goes.same {h : Held σ} {x : Act σ α} (ready : Ready k h) (same : x.Ensures h.desk.world
    (fun _ => k.Same h.desk.world) fun _ => k.Same h.desk.world) : Goes k (Held.inWorld x) h :=
  ensures_inWorld.mpr (same.mono (fun _ _ same => .of_same ready (.refl _) (List.prefix_refl _) rfl same)
    fun _ _ same => .of_same ready (.refl _) (List.prefix_refl _) rfl same)

/-- Whatever a drive does, it proceeds. -/
def proceeding (k : Ledger s) : Manner.Driving s where
  fits := Ready k
  goes := Proceeds k
  refl := .refl
  trans := .trans
  fits_of_goes p := p.ready
  change ready retouched := .of_change ready retouched.run (retouched.log ▸ List.prefix_refl _)
  merges ready := .of_change ready ⟨rfl, rfl, rfl⟩ (List.prefix_refl _)
  log := by
    intro h ready nodeId action outcome message data
    refine (log_spec ready.valid nodeId action outcome message data).mono ?_ ?_
    · rintro - h' ⟨e, present, record, active, -, becomes⟩
      have own := ready.own e present
      refine .of_update ready ?_ ?_ active (e := logged e _) ⟨own.id, own.workflow, own.graph⟩ becomes
      · rw [record]
        exact ⟨rfl, rfl, rfl⟩
      · rw [record]
        exact List.prefix_append _ _
    · rintro f h' ⟨-, -, record, desk, same⟩
      refine .of_same ready ?_ ?_ (by rw [desk]) same
      · rw [record]
        exact ⟨rfl, rfl, rfl⟩
      · rw [record]
        exact List.prefix_append _ _
  respond := by
    intro h sending ready own
    obtain ⟨valid, record, -⟩ := k.respond ready.valid sending
    exact ⟨⟨valid, ready.claimed, fun e present => ready.own e (by rwa [record] at present)⟩, .refl _,
      List.prefix_refl _, .of_respond ready.valid own⟩
  happen := by
    intro h effect ready caused
    have plain (records : afterEffect (k.record h.desk.world) effect = k.record h.desk.world) :
        Goes k (Held.inWorld (s.suffer effect)) h := Goes.same ready (k.suffer_same ready.valid records)
    cases effect with
    | pass micros => exact plain rfl
    | draw => exact plain rfl
    | cancel id =>
      refine Act.ensures_bind.mpr (ensures_atDesk.mpr ((requestCancel_spec ready.valid id).mono ?_ ?_))
      · exact fun _ d requested => .of_requested ready requested
      · exact fun _ d requested => .of_requested ready requested
    | forget id =>
      refine ensures_inWorld.mpr ((k.suffer ready.valid _).mono ?_ ?_)
      · intro _ w becomes
        exact .of_lost ready (fun spares => caused.spared id spares rfl) becomes
      · exact fun _ _ same => .of_same ready (.refl _) (List.prefix_refl _) rfl same
  persist := by
    intro h ready
    refine (persist_spec ready.valid).mono ?_ fun _ _ none => none.elim
    rintro - h' ⟨record, desk, becomes⟩
    exact .of_update ready (record ▸ .refl _) (record ▸ List.prefix_refl _) (by rw [desk]) (.refl _) becomes
  consume := by
    intro h ready
    refine ensures_consumeCancel.mpr ?_
    split
    · exact .of_same ready (.refl _) (List.prefix_refl _) rfl ⟨ready.valid, rfl, rfl, k.drift_refl _⟩
    · exact .refl ready
  moved := by
    intro expected h ready
    have loaded : Goes k (Held.inWorld (s.load h.record.id)) h :=
      Goes.same ready ((k.load ready.valid _).mono (fun _ _ loaded => loaded.2) fun _ _ none => none.elim)
    refine Act.ensures_bind.mpr (Act.ensures_bind.mpr (loaded.mono ?_ fun _ _ p => p))
    intro found _ p
    cases found <;> exact p

section

variable (limits : Limits) (node : Node) (a : Action)

theorem keeps_become (next : Status) : Keeps k (become s next) := (proceeding k).keeps_become next

theorem keeps_log (nodeId action : String) (outcome : Outcome) (message : String) (data : Option Members) :
    Keeps k (log s nodeId action outcome message data) := (proceeding k).keeps_log _ _ _ _ _

theorem keeps_cancel : Keeps k (cancel s) := (proceeding k).keeps_cancel

theorem keeps_abort (failure : Failure) : Keeps k (abort s failure) := (proceeding k).keeps_abort failure

theorem keeps_actionFailed (message : String) : Keeps k (actionFailed s node a message) :=
  (proceeding k).keeps_actionFailed node a message

theorem keeps_perform : Keeps k (perform s limits node a) := (proceeding k).keeps_perform limits node a

theorem keeps_decide (expression : String) : Keeps k (decide s node expression) :=
  (proceeding k).keeps_decide node expression

theorem keeps_park : Keeps k (park s node a) := (proceeding k).keeps_park node a

theorem keeps_goOn (next : Option String) : Keeps k (goOn s next) := (proceeding k).keeps_goOn next

theorem keeps_visit : Keeps k (visit s limits) := (proceeding k).keeps_visit limits

theorem keeps_loop (budget : Nat) : Keeps k (loop s limits budget) := (proceeding k).keeps_loop limits budget

theorem keeps_begin : Keeps k (begin s) := (proceeding k).keeps_begin

theorem keeps_wakeAt (time : Option Instant) (context : Members) : Keeps k (wakeAt s time context) :=
  (proceeding k).keeps_wakeAt time context

theorem keeps_thenLoop {opening : Act (Held σ) Bool} (keeps : Keeps k opening) :
    Keeps k (thenLoop s limits opening) := (proceeding k).keeps_thenLoop limits keeps

theorem keeps_movedOn (expected : Status) : Keeps k (movedOn s expected) := (proceeding k).moved expected

theorem keeps_unlessMoved (expected : Status) {drive : Act (Held σ) Unit} (keeps : Keeps k drive) :
    Keeps k (unlessMoved s expected drive) := (proceeding k).keeps_unlessMoved expected keeps

end

/-- How driving a copy of a run may change the desk. -/
structure Drove (k : Ledger s) (e : Execution) (d d' : Desk σ) : Prop where
  around : Around k e.id d d'
  own : ∀ e', k.record d'.world e.id = some e' → SameRun e e'

theorem ensures_drive {e : Execution} {body : Act (Held σ) (Option Execution)} {d : Desk σ}
    {good : Driven → Desk σ → Prop} {bad : Failure → Desk σ → Prop} :
    (drive s e body).Ensures d good bad ↔
      (body.recover fun failure => do
        abort s failure
        pure none).Ensures ⟨d, e⟩
        (fun moved h => good ⟨moved.getD h.record, h.record⟩ (h.desk.released e.id h.record.isTerminal))
        fun failure h => bad failure (h.desk.released e.id h.record.isTerminal) := by
  simp only [Act.Ensures, drive]
  rcases (body.recover fun failure => do
    abort s failure
    pure none) ⟨d, e⟩ with ⟨_ | _, h⟩ <;> rfl

/-- A copy that has been driven is a record of the same run with a longer log. -/
theorem drive_frame {e : Execution} {d : Desk σ} {body : Act (Held σ) (Option Execution)}
    (keeps : Keeps k body) (valid : k.valid d.world) (idle : e.id ∉ d.active)
    (own : ∀ e', k.record d.world e.id = some e' → SameRun e e') :
    (drive s e body).Ensures { d with active := e.id :: d.active }
      (fun driven d' => Drove k e d d' ∧ SameRun e driven.copy ∧ e.log <+: driven.copy.log)
      fun _ => Drove k e d := by
  have ready : Ready k (⟨{ d with active := e.id :: d.active }, e⟩ : Held σ) := ⟨valid, by simp, own⟩
  have finished {h : Held σ} {settled : Bool}
      (p : Proceeds k (⟨{ d with active := e.id :: d.active }, e⟩ : Held σ) h) :
      Drove k e d (h.desk.released e.id settled) := by
    refine ⟨⟨p.around.valid, ?_, p.around.drift, p.around.others, p.around.sent, p.around.kept⟩, ?_⟩
    · show without e.id h.desk.active = d.active
      rw [p.around.active, without_claimed idle]
    · intro e' present
      exact p.run.trans (p.ready.own e' (by rw [p.run.id]; exact present))
  refine ensures_drive.mpr (((proceeding k).keeps_aborting keeps _ ready).mono ?_ ?_)
  · exact fun _ _ p => ⟨finished p, p.run, p.log⟩
  · exact fun _ _ p => finished p

theorem start_frame (limits : Limits) {e : Execution} {d : Desk σ} (valid : k.valid d.world)
    (own : ∀ e', k.record d.world e.id = some e' → SameRun e e') : (start s limits e).Ensures d
      (fun driven d' => Drove k e d d' ∧ SameRun e driven.copy ∧ e.log <+: driven.copy.log)
      fun _ => Drove k e d := by
  refine Act.ensures_bind.mpr (ensures_claim.mpr ?_)
  by_cases busy : e.id ∈ d.active
  · rw [if_pos (by simpa using busy)]
    exact ⟨.refl valid, own⟩
  · rw [if_neg (by simpa using busy)]
    refine drive_frame (keeps_unlessMoved _ ?_) valid busy own
    rw [startBody_eq]
    exact keeps_thenLoop limits keeps_begin

theorem resume_frame (limits : Limits) {e : Execution} {d : Desk σ} (time : Option Instant)
    (context : Members) (valid : k.valid d.world)
    (own : ∀ e', k.record d.world e.id = some e' → SameRun e e') :
    (resume s limits e time context).Ensures d
      (fun driven d' => Drove k e d d' ∧ SameRun e driven.copy ∧ e.log <+: driven.copy.log)
      fun _ => Drove k e d := by
  have unchanged : Drove k e d d ∧ SameRun e e ∧ e.log <+: e.log :=
    ⟨⟨.refl valid, own⟩, .refl e, List.prefix_refl _⟩
  unfold resume
  split
  · exact unchanged
  refine Act.ensures_bind.mpr (ensures_claim.mpr ?_)
  by_cases busy : e.id ∈ d.active
  · rw [if_pos (by simpa using busy)]
    exact unchanged
  · rw [if_neg (by simpa using busy)]
    refine drive_frame (keeps_unlessMoved _ ?_) valid busy own
    rw [resumeBody_now_eq]
    exact keeps_thenLoop limits (keeps_wakeAt time context)

end TriggerFlow.Run
