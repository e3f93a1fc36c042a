import TriggerFlow.Proofs.Run.Acts
import TriggerFlow.Proofs.Run.Parts

/-!
# What passes from the acts of a drive to the whole of it

A drive is put together from few primitive acts: the record in hand changes, an entry is logged, an action goes
out, things happen around it, the record is stored, a request is taken up, the stored record is read. A manner is a
relation between what is in hand before and after that these acts respect. It is then respected by every sequence of
them, whether it ends in a value or in a failure. A visit to a node sends its action out before the record is stored,
and the openings and endings of a drive send nothing out, so a manner of visiting and one of storing each ask for less
than a manner of driving.
-/

namespace TriggerFlow.Run

variable {σ α β : Type} {s : Surroundings σ}

/-- Two records of one run. -/
structure SameRun (e e' : Execution) : Prop where
  id : e'.id = e.id
  workflow : e'.workflowId = e.workflowId
  graph : e'.graph = e.graph

namespace SameRun

theorem refl (e : Execution) : SameRun e e := ⟨rfl, rfl, rfl⟩

theorem trans {e e' e'' : Execution} (h : SameRun e e') (h' : SameRun e' e'') : SameRun e e'' :=
  ⟨h'.id.trans h.id, h'.workflow.trans h.workflow, h'.graph.trans h.graph⟩

theorem symm {e e' : Execution} (h : SameRun e e') : SameRun e' e :=
  ⟨h.id.symm, h.workflow.symm, h.graph.symm⟩

end SameRun

/-- A record has been touched, but not in what the run is and when it was launched, its log and its variables. -/
structure Retouched (e e' : Execution) : Prop where
  run : SameRun e e'
  startedAt : e'.startedAt = e.startedAt
  log : e'.log = e.log
  vars : e'.vars = e.vars

/-- A move to another state leaves alone what the run is and what it has logged. -/
theorem retouched_of_become? {e e' : Execution} {next : Status} {time : Instant}
    (h : e.become? next time = some e') : Retouched e e' := by
  rw [Execution.become?] at h
  split at h
  · split at h <;> cases h <;> exact ⟨⟨rfl, rfl, rfl⟩, rfl, rfl, rfl⟩
  · cases h

theorem status_of_become? {e e' : Execution} {next : Status} {time : Instant}
    (h : e.become? next time = some e') : e'.status = next := by
  rw [Execution.become?] at h
  split at h
  · split at h <;> cases h <;> rfl
  · cases h

/-- The dispatcher may bring something about while an action runs. -/
def Surroundings.Causes (s : Surroundings σ) (effect : Action.Effect) : Prop :=
  ∃ sending w, effect ∈ (s.respond sending w).1

/-- A record that is spared is not lost while an action runs. -/
theorem Surroundings.Causes.spared {effect : Action.Effect} (caused : s.Causes effect) :
    ∀ other, s.Spares other → effect ≠ .forget other := by
  rintro other spares rfl
  obtain ⟨sending, w, mem⟩ := caused
  exact spares sending w mem

/-- What is done when an action that was sent out has come back. -/
def concluded (s : Surroundings σ) (g : Graph) (node : Node) (a : Action) (config : Members) :
    Except String Action.Result → Act (Held σ) (Option String)
  | .error message => actionFailed s node a message
  | .ok result => do
    Held.change fun e => { e with vars := Ordered.overlay e.vars result.output }
    let message := if result.message = "" then "Executed " ++ a.kind.name else result.message
    log s node.id (actionLabel node a) .success message
      (some [("config", .object config), ("output", .object result.output)])
    return some (← successor g node.id)

theorem perform_eq (limits : Limits) (node : Node) (a : Action) : perform s limits node a = (do
    let config ← rendered a
    let e ← Held.current
    let answer ← send s ⟨e.id, node.id, a.kind, config, e.vars⟩ (a.timeout.or limits.timeout)
    concluded s e.graph node a config answer) := rfl

/-- A relation that what is done on the visit to a node respects, wherever it fits, apart from sending an action out and
merging its output. -/
structure Manner (s : Surroundings σ) where
  fits : Held σ → Prop
  goes : Held σ → Held σ → Prop
  refl : ∀ {h}, fits h → goes h h
  trans : ∀ {h h' h''}, goes h h' → goes h' h'' → goes h h''
  fits_of_goes : ∀ {h h'}, goes h h' → fits h'
  change : ∀ {h e}, fits h → Retouched h.record e → goes h { h with record := e }
  log : ∀ {h}, fits h → ∀ nodeId action outcome message data,
    (log s nodeId action outcome message data).Ensures h (fun _ => goes h) fun _ => goes h
  happen : ∀ {h} {effect : Action.Effect}, fits h → s.Causes effect →
    (happen s effect).Ensures h (fun _ => goes h) fun _ => goes h

namespace Manner

/-- From what is in hand, an act respects the manner, whether it fails or not. -/
def Goes (m : Manner s) (x : Act (Held σ) α) (h : Held σ) : Prop :=
  x.Ensures h (fun _ => m.goes h) fun _ => m.goes h

/-- An act respects the manner wherever that fits. -/
def Keeps (m : Manner s) (x : Act (Held σ) α) : Prop := ∀ h, m.fits h → m.Goes x h

variable {m : Manner s} {h h' : Held σ}

namespace Goes

theorem pure (fits : m.fits h) (a : α) : m.Goes (Pure.pure a : Act (Held σ) α) h := m.refl fits

theorem fail (fits : m.fits h) (failure : Failure) : m.Goes (Act.fail failure : Act (Held σ) α) h := m.refl fits

/-- After a step that has been made. -/
theorem after {x : Act (Held σ) α} (step : m.goes h h') (goes : m.Goes x h') :
    x.Ensures h' (fun _ => m.goes h) fun _ => m.goes h :=
  goes.mono (fun _ _ => m.trans step) fun _ _ => m.trans step

theorem bind {x : Act (Held σ) α} {f : α → Act (Held σ) β} (hx : m.Goes x h)
    (hf : ∀ a h', m.fits h' → m.Goes (f a) h') : m.Goes (x >>= f) h :=
  Act.ensures_bind.mpr (hx.mono (fun a h' step => after step (hf a h' (m.fits_of_goes step))) fun _ _ step => step)

theorem lift {ε : Type} (fits : m.fits h) (wrap : ε → Failure) (r : Except ε α) :
    m.Goes (Act.lift wrap r : Act (Held σ) α) h := by
  cases r
  · exact fail fits _
  · exact pure fits _

theorem attempt {x : Act (Held σ) α} (goes : m.Goes x h) : m.Goes x.attempt h := Act.ensures_attempt.mpr goes

theorem recover {x : Act (Held σ) α} {handler : Failure → Act (Held σ) α} (goes : m.Goes x h)
    (handled : ∀ failure h', m.fits h' → m.Goes (handler failure) h') : m.Goes (x.recover handler) h :=
  Act.ensures_recover.mpr
    (goes.mono (fun _ _ step => step) fun f h' step => after step (handled f h' (m.fits_of_goes step)))

theorem current {f : Execution → Act (Held σ) α} (goes : m.Goes (f h.record) h) :
    m.Goes (Held.current >>= f) h := goes

theorem change (fits : m.fits h) {f : Execution → Execution} (retouched : Retouched h.record (f h.record)) :
    m.Goes (Held.change f) h := m.change fits retouched

end Goes

variable (m)

theorem keeps_become (next : Status) : m.Keeps (become s next) := by
  intro h fits
  refine ensures_become.mpr ⟨?_, fun _ => m.refl fits⟩
  exact fun e moved => m.change fits (retouched_of_become? moved)

theorem keeps_log (nodeId action : String) (outcome : Outcome) (message : String) (data : Option Members) :
    m.Keeps (Run.log s nodeId action outcome message data) := fun _ fits => m.log fits _ _ _ _ _

theorem goes_happenAll : ∀ {effects : List Action.Effect} {h : Held σ}, m.fits h →
    (∀ effect ∈ effects, s.Causes effect) → m.Goes (happenAll s effects) h
  | [], _, fits, _ => .pure fits ()
  | effect :: rest, h, fits, caused => by
    have first : m.Goes (Run.happen s effect) h := m.happen fits (caused effect List.mem_cons_self)
    refine first.bind fun _ _ fits => ?_
    exact goes_happenAll fits fun other mem => caused other (List.mem_cons_of_mem _ mem)

theorem keeps_successor (g : Graph) (id : String) : m.Keeps (successor (σ := σ) g id) := by
  intro h fits
  unfold successor
  split
  · exact .pure fits _
  · exact .fail fits _

theorem keeps_currentNode : m.Keeps (currentNode (σ := σ)) := by
  intro h fits
  refine .current ?_
  split
  · exact .pure fits _
  · exact .fail fits _

theorem keeps_actionFailed (node : Node) (a : Action) (message : String) :
    m.Keeps (actionFailed s node a message) := by
  intro h fits
  refine (m.keeps_log _ _ _ _ _ _ fits).bind fun _ _ fits => .current ?_
  split
  · exact (m.keeps_successor _ _ _ fits).bind fun _ _ fits => .pure fits _
  · refine (Goes.change fits ⟨⟨rfl, rfl, rfl⟩, rfl, rfl, rfl⟩).bind fun _ _ fits => ?_
    exact (m.keeps_become _ _ fits).bind fun _ _ fits => .pure fits _

theorem keeps_rendered (a : Action) : m.Keeps (rendered (σ := σ) a) :=
  fun _ fits => .current (.lift fits _ _)

/-- The manner is also respected when an output is merged into the variables. -/
def Merges : Prop := ∀ {h vars}, m.fits h → m.goes h { h with record := { h.record with vars := vars } }

theorem keeps_concluded (merges : m.Merges) (g : Graph) (node : Node) (a : Action) (config : Members)
    (answer : Except String Action.Result) : m.Keeps (concluded s g node a config answer) := by
  intro h fits
  cases answer with
  | error message => exact m.keeps_actionFailed node a message h fits
  | ok result =>
    have merged : m.Goes (Held.change fun e => { e with vars := Ordered.overlay e.vars result.output }) h :=
      merges fits
    refine merged.bind fun _ _ fits => ?_
    refine (m.keeps_log _ _ _ _ _ _ fits).bind fun _ _ fits => ?_
    exact (m.keeps_successor _ _ _ fits).bind fun _ _ fits => .pure fits _

theorem keeps_decide (node : Node) (expression : String) : m.Keeps (Run.decide s node expression) := by
  intro h fits
  refine .current ?_
  split
  · split
    · refine (m.keeps_log _ _ _ _ _ _ fits).bind fun _ _ fits => ?_
      refine (Goes.change fits ⟨⟨rfl, rfl, rfl⟩, rfl, rfl, rfl⟩).bind fun _ _ fits => ?_
      exact (m.keeps_become _ _ fits).bind fun _ _ fits => .pure fits _
    · exact .fail fits _
  · refine (m.keeps_log _ _ _ _ _ _ fits).bind fun _ _ fits => ?_
    split
    · exact .pure fits _
    · exact .fail fits _

theorem keeps_parking (node : Node) (a : Action) (time : Instant) (config : Members) :
    m.Keeps (parking s node a time config) := by
  intro h fits
  unfold parking
  split
  · refine (Goes.lift fits _ _).bind fun _ _ fits => ?_
    exact (Goes.lift fits _ _).bind fun _ _ fits => .pure fits _
  · refine (Goes.lift fits _ _).bind fun _ _ fits => .current ?_
    refine (Goes.lift fits _ _).bind fun holds _ fits => ?_
    split
    · refine (m.keeps_log _ _ _ _ _ _ fits).bind fun _ _ fits => ?_
      exact (m.keeps_successor _ _ _ fits).bind fun _ _ fits => .pure fits _
    · refine (Goes.lift fits _ _).bind fun limit _ fits => ?_
      cases limit with
      | none => exact (Goes.pure fits _).bind fun _ _ fits => .pure fits _
      | some seconds =>
        refine Goes.bind ?_ fun _ _ fits => .pure fits _
        rw [map_eq_pure_bind]
        exact (Goes.lift fits _ _).bind fun _ _ fits => .pure fits _

theorem keeps_park (node : Node) (a : Action) : m.Keeps (park s node a) := by
  intro h fits
  refine (m.keeps_rendered a h fits).bind fun config _ fits => ?_
  refine (m.keeps_parking node a _ config _ fits).attempt.bind fun outcome _ fits => ?_
  split
  · split
    · exact m.keeps_actionFailed _ _ _ _ fits
    · exact .fail fits _
  · exact .pure fits _
  · refine (m.keeps_log _ _ _ _ _ _ fits).bind fun _ _ fits => ?_
    refine (Goes.change fits ⟨⟨rfl, rfl, rfl⟩, rfl, rfl, rfl⟩).bind fun _ _ fits => ?_
    exact (m.keeps_become _ _ fits).bind fun _ _ fits => .pure fits _

/-- A manner that is also respected when an action goes out and comes back. -/
structure Visiting (s : Surroundings σ) extends Manner s where
  merges : toManner.Merges
  respond : ∀ {h} {sending : Sending}, fits h → sending.runId = h.record.id →
    goes h { h with desk := { h.desk with world := (s.respond sending h.desk.world).2.2 } }

namespace Visiting

variable (m : Visiting s)

theorem goes_send (fits : m.fits h) {sending : Sending} (own : sending.runId = h.record.id)
    (limit : Option Binary64) : m.Goes (send s sending limit) h := by
  refine Act.ensures_bind.mpr (ensures_inWorld.mpr ?_)
  have gone := m.respond fits own
  have effects := m.goes_happenAll (m.fits_of_goes gone) fun effect mem => ⟨sending, h.desk.world, mem⟩
  refine Goes.after gone (effects.attempt.bind ?_)
  intro answer _ fits
  cases answer <;> exact .pure fits _

theorem keeps_perform (limits : Limits) (node : Node) (a : Action) : m.Keeps (perform s limits node a) := by
  intro h fits
  rw [perform_eq]
  refine (m.keeps_rendered a h fits).bind fun config h fits => .current ?_
  exact (m.goes_send fits rfl _).bind fun answer _ fits => m.keeps_concluded m.merges _ node a config answer _ fits

end Visiting

/-- A manner that is also respected when the record is stored. -/
structure Storing (s : Surroundings σ) extends Manner s where
  persist : toManner.Keeps (persist s)

namespace Storing

variable (m : Storing s)

theorem keeps_cancel : m.Keeps (cancel s) := fun h fits =>
  (m.keeps_become _ h fits).bind fun _ _ fits => .current
    ((m.keeps_log _ _ _ _ _ _ fits).bind fun _ _ fits => m.persist _ fits)

theorem keeps_abort (failure : Failure) : m.Keeps (abort s failure) := by
  intro h fits
  refine .current ?_
  split
  · exact .pure fits ()
  refine (Goes.change fits ⟨⟨rfl, rfl, rfl⟩, rfl, rfl, rfl⟩).bind fun _ _ fits => ?_
  refine (m.keeps_become _ _ fits).bind fun _ _ fits => ?_
  refine .recover ?_ fun _ _ fits => .pure fits ()
  exact (m.keeps_log _ _ _ _ _ _ fits).bind fun _ _ fits => m.persist _ fits

theorem keeps_finish (node : Node) : m.Keeps (finish s node) := fun h fits =>
  (m.keeps_log _ _ _ _ _ h fits).bind fun _ _ fits =>
    (m.keeps_become _ _ fits).bind fun _ _ fits => m.persist _ fits

theorem keeps_goOn (next : Option String) : m.Keeps (goOn s next) := by
  intro h fits
  cases next with
  | none => exact m.persist h fits
  | some id => exact (Goes.change fits ⟨⟨rfl, rfl, rfl⟩, rfl, rfl, rfl⟩).bind fun _ _ fits => m.persist _ fits

theorem keeps_begin : m.Keeps (begin s) := by
  intro h fits
  refine (m.keeps_become _ h fits).bind fun _ _ fits => .current ?_
  split
  · exact .fail fits _
  · refine (m.keeps_successor _ _ _ fits).bind fun _ _ fits => ?_
    exact (m.keeps_goOn _ _ fits).bind fun _ _ fits => .pure fits _

theorem keeps_wake (time : Instant) (context : Members) : m.Keeps (wake s time context) := by
  intro h fits
  refine .current ?_
  split
  · split
    · exact .fail fits _
    refine (Goes.lift fits _ _).bind fun found _ fits => ?_
    cases found with
    | notDue => exact .pure fits _
    | failed message =>
      refine (m.keeps_become _ _ fits).bind fun _ _ fits => ?_
      refine (Goes.change fits ⟨⟨rfl, rfl, rfl⟩, rfl, rfl, rfl⟩).bind fun _ _ fits => ?_
      refine (m.keeps_actionFailed _ _ _ _ fits).bind fun next _ fits => ?_
      exact (m.keeps_goOn next _ fits).bind fun _ _ fits => .pure fits _
    | met condition =>
      refine (m.keeps_become _ _ fits).bind fun _ _ fits => ?_
      refine (Goes.change fits ⟨⟨rfl, rfl, rfl⟩, rfl, rfl, rfl⟩).bind fun _ _ fits => ?_
      have leaves {h : Held σ} (fits : m.fits h) (id : String) :
          m.Goes (Held.current >>= fun e => successor e.graph id >>= fun next =>
            goOn s (some next) >>= fun _ => pure true) h :=
        .current ((m.keeps_successor _ _ h fits).bind fun next _ fits =>
          (m.keeps_goOn _ _ fits).bind fun _ _ fits => .pure fits _)
      cases condition with
      | none => exact leaves fits _
      | some expression =>
        exact (m.keeps_log _ _ _ _ _ _ fits).bind fun _ _ fits => leaves fits _
  · exact .fail fits _

theorem keeps_wakeAt (time : Option Instant) (context : Members) : m.Keeps (wakeAt s time context) :=
  fun h fits => m.keeps_wake _ context h fits

end Storing

/-- A manner of storing that is also respected when a request is taken up or the stored record is read. -/
structure Heeding (s : Surroundings σ) extends Storing s where
  consume : toManner.Keeps consumeCancel
  moved : ∀ expected, toManner.Keeps (movedOn s expected)

namespace Heeding

variable (m : Heeding s)

theorem keeps_mayVisit : m.Keeps (mayVisit s) := by
  intro h fits
  refine .current ?_
  split
  · refine Goes.bind ?_ fun _ _ fits => .pure fits _
    refine .current ?_
    split
    · refine (m.consume h fits).bind fun asked _ fits => ?_
      cases asked
      · exact .pure fits _
      · exact m.keeps_cancel _ fits
    · exact .pure fits _
  · refine (m.consume h fits).bind fun asked _ fits => ?_
    cases asked
    · exact .pure fits _
    · exact (m.keeps_cancel _ fits).bind fun _ _ fits => .pure fits _

end Heeding

/-- A manner that is respected by all that a drive does. -/
structure Driving (s : Surroundings σ) extends Visiting s, Heeding s

namespace Driving

variable (m : Driving s) (limits : Limits)

theorem keeps_visit : m.Keeps (visit s limits) := by
  intro h fits
  refine (m.keeps_currentNode h fits).bind fun node _ fits => ?_
  split
  · split
    · exact (m.keeps_park node _ _ fits).bind fun next _ fits => m.keeps_goOn next _ fits
    · exact (m.keeps_perform limits node _ _ fits).bind fun next _ fits => m.keeps_goOn next _ fits
  · exact (m.keeps_decide node _ _ fits).bind fun next _ fits => m.keeps_goOn next _ fits
  · exact m.keeps_finish node _ fits
  · exact .fail fits _

theorem keeps_loop : ∀ budget, m.Keeps (loop s limits budget)
  | 0 => fun h fits => (m.keeps_mayVisit h fits).bind fun goes _ fits => by
    cases goes
    · exact .pure fits _
    · exact .fail fits _
  | budget + 1 => fun h fits => (m.keeps_mayVisit h fits).bind fun goes _ fits => by
    cases goes
    · exact .pure fits _
    · exact (m.keeps_visit limits _ fits).bind fun _ _ fits => keeps_loop budget _ fits

theorem keeps_thenLoop {opening : Act (Held σ) Bool} (keeps : m.Keeps opening) :
    m.Keeps (thenLoop s limits opening) := fun h fits => (keeps h fits).bind fun go _ fits => by
  cases go
  · exact .pure fits _
  · exact m.keeps_loop limits _ _ fits

theorem keeps_unlessMoved (expected : Status) {drive : Act (Held σ) Unit} (keeps : m.Keeps drive) :
    m.Keeps (unlessMoved s expected drive) := by
  intro h fits
  refine (m.moved expected h fits).bind fun moved _ fits => ?_
  cases moved with
  | some stored => exact .pure fits _
  | none =>
    refine (m.consume _ fits).bind fun asked _ fits => ?_
    cases asked
    · exact (keeps _ fits).bind fun _ _ fits => .pure fits _
    · exact (m.keeps_cancel _ fits).bind fun _ _ fits => .pure fits _

/-- A drive that a failure ends. -/
theorem keeps_aborting {body : Act (Held σ) (Option Execution)} (keeps : m.Keeps body) :
    m.Keeps (body.recover fun failure => do
      abort s failure
      pure none) := fun h fits =>
  (keeps h fits).recover fun failure _ fits => (m.keeps_abort failure _ fits).bind fun _ _ fits => .pure fits _

end Driving

end Manner

end TriggerFlow.Run
