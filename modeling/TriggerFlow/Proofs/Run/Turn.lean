import TriggerFlow.Proofs.Run.Due
import TriggerFlow.Proofs.Run.Manner
import TriggerFlow.Proofs.Run.WellFormed

/-!
# What a visit makes of the record in hand

On any graph, valid or not, and whatever the surroundings answer, the work at a node changes variables and log, and
then the run leads on, fails or parks. Where the work breaks off, variables and log are all that has changed. So a
record that makes sense still does when it is stored after the visit.
-/

namespace TriggerFlow.Run

variable {σ α : Type} {s : Surroundings σ} {h : Held σ}

/-- Variables and log may have changed, and nothing else. -/
structure Onward (e e' : Execution) : Prop where
  run : SameRun e e'
  status : e'.status = e.status
  nodeId : e'.nodeId = e.nodeId
  completedAt : e'.completedAt = e.completedAt
  error : e'.error = e.error
  wait : e'.wait = e.wait

namespace Onward

variable {e e' e'' : Execution}

theorem refl (e : Execution) : Onward e e := ⟨.refl e, rfl, rfl, rfl, rfl, rfl⟩

theorem trans (on : Onward e e') (on' : Onward e' e'') : Onward e e'' :=
  ⟨on.run.trans on'.run, on'.status.trans on.status, on'.nodeId.trans on.nodeId,
    on'.completedAt.trans on.completedAt, on'.error.trans on.error, on'.wait.trans on.wait⟩

theorem logged (e : Execution) (entry : LogEntry) : Onward e (logged e entry) :=
  ⟨⟨rfl, rfl, rfl⟩, rfl, rfl, rfl, rfl, rfl⟩

theorem at_node (on : Onward e e') {node : Node} (at_ : e.At node) : e'.At node := by
  rw [Execution.At, on.nodeId, on.run.graph]
  exact at_

/-- A run that goes on makes sense whatever its variables and its log are. -/
theorem running (on : Onward e e') (sound : e.WellFormed) (status : e.status = .running) : e'.WellFormed := by
  have lives : e.isTerminal = false := by rw [Execution.isTerminal, status]; rfl
  have ended : e'.completedAt = none := by rw [on.completedAt, sound.completedAt_eq lives]
  have wait : e'.wait = none := by rw [on.wait, sound.wait_eq (by simp [status])]
  have error : e'.error = none := by rw [on.error, sound.error_eq lives]
  exact .running (on.status.trans status) ended wait error

end Onward

/-- What the work at a node has made of the record, and the node that it names as the next one. -/
inductive Turned (node : Node) (e : Execution) : Option String → Execution → Prop
  | leads {e' : Execution} (next : String) (on : Onward e e') : Turned node e (some next) e'
  | fails {e' : Execution} (on : Onward e e') (message : String) (ended : Instant) :
    Turned node e none { e' with
      status := .failed, completedAt := some ended, wait := none, error := some message }
  | parks {e' : Execution} (on : Onward e e') {a : Action} (kind : node.task = .action a) {wait : Wait}
      (suits : wait.Suits a.kind) : Turned node e none { e' with status := .waiting, wait := some wait }

namespace Turned

variable {node : Node} {e e' : Execution} {next : Option String}

theorem of_onward (on : Onward e e') {next : Option String} {e'' : Execution} (turned : Turned node e' next e'') :
    Turned node e next e'' := by
  cases turned with
  | leads next on' => exact .leads next (on.trans on')
  | fails on' message ended => exact .fails (on.trans on') message ended
  | parks on' kind suits => exact .parks (on.trans on') kind suits

/-- From running, a turn takes one allowed move at most. -/
theorem path (turned : Turned node e next e') (status : e.status = .running) :
    e'.status = .running ∨ e.status.canBecome e'.status := by
  cases turned with
  | leads next on => exact .inl (on.status.trans status)
  | fails on message ended => exact .inr (by rw [status]; rfl)
  | parks on kind suits => exact .inr (by rw [status]; rfl)

end Turned

/-- A record with the node that comes next, if one is named. -/
def headed (next : Option String) (e : Execution) : Execution :=
  match next with
  | some id => { e with nodeId := some id }
  | none => e

theorem sameRun_headed (next : Option String) (e : Execution) : SameRun e (headed next e) := by
  cases next <;> exact ⟨rfl, rfl, rfl⟩

@[simp] theorem headed_wait (next : Option String) (e : Execution) : (headed next e).wait = e.wait := by
  cases next <;> rfl

@[simp] theorem headed_status (next : Option String) (e : Execution) : (headed next e).status = e.status := by
  cases next <;> rfl

/-- The record that is stored after a visit makes sense. -/
theorem Turned.wellFormed {node : Node} {e e' : Execution} {next : Option String}
    (turned : Turned node e next e') (sound : e.WellFormed) (status : e.status = .running) (at_ : e.At node) :
    (headed next e').WellFormed := by
  have lives : e.isTerminal = false := by rw [Execution.isTerminal, status]; rfl
  cases turned with
  | leads next on =>
    have sound' := on.running sound status
    have status' := on.status.trans status
    have lives' : e'.isTerminal = false := by rw [Execution.isTerminal, status']; rfl
    exact .running status' (sound'.completedAt_eq lives') (sound'.wait_eq (by simp [status'])) (sound'.error_eq lives')
  | fails on message ended =>
    constructor <;> simp [headed, Execution.isTerminal, Status.isTerminal]
  | @parks e' on a kind wait suits =>
    have ended : e'.completedAt = none := by rw [on.completedAt, sound.completedAt_eq lives]
    have error : e'.error = none := by rw [on.error, sound.error_eq lives]
    constructor
    case parked =>
      intro _
      exact ⟨node, a, wait, on.at_node at_, kind, rfl, suits⟩
    all_goals simp [headed, ended, error, Execution.isTerminal, Status.isTerminal]

section Acts

/-- What an entry in the log makes of the record, whether it can be stored or not. -/
theorem log_record (nodeId action : String) (outcome : Outcome) (message : String) (data : Option Members) :
    (log s nodeId action outcome message data).Ensures h
      (fun _ h' => h'.record = logged h.record ⟨s.now h.desk.world, nodeId, action, outcome, message, data⟩)
      fun _ h' => h'.record = logged h.record ⟨s.now h.desk.world, nodeId, action, outcome, message, data⟩ := by
  simp only [log, Act.ensures_bind, ensures_now, ensures_change, ensures_current, ensures_inWorld]
  unfold Act.Ensures
  rcases s.append h.record.id ⟨s.now h.desk.world, nodeId, action, outcome, message, data⟩ h.desk.world with
    ⟨failure | flag, w⟩
  · rfl
  · cases flag <;> rfl

theorem log_onward (nodeId action : String) (outcome : Outcome) (message : String) (data : Option Members) :
    (log s nodeId action outcome message data).Ensures h
      (fun _ h' => Onward h.record h'.record) fun _ h' => Onward h.record h'.record :=
  (log_record nodeId action outcome message data).mono (fun _ _ record => record ▸ .logged ..)
    fun _ _ record => record ▸ .logged ..

theorem atDesk_record (x : Act (Desk σ) α) : (Held.atDesk x).Ensures h
    (fun _ h' => h'.record = h.record) fun _ h' => h'.record = h.record := by
  rw [ensures_atDesk]
  unfold Act.Ensures
  rcases x h.desk with ⟨_ | _, d⟩ <;> rfl

theorem persist_record : (persist s).Ensures h (fun _ h' => h'.record = h.record) fun _ h' => h'.record = h.record :=
  Act.ensures_bind.mpr (ensures_current.mpr (atDesk_record _))

theorem goOn_record (next : Option String) : (goOn s next).Ensures h
    (fun _ h' => h'.record = headed next h.record) fun _ h' => h'.record = headed next h.record := by
  cases next with
  | none => exact persist_record
  | some id => exact Act.ensures_bind.mpr (ensures_change.mpr persist_record)

theorem movedOn_record (expected : Status) : (movedOn s expected).Ensures h
    (fun _ h' => h'.record = h.record) fun _ h' => h'.record = h.record := by
  refine Act.ensures_bind.mpr (ensures_current.mpr (Act.ensures_bind.mpr ?_))
  apply (atDesk_record _).mono _ fun _ _ same => same
  rintro (_ | _) h' same <;> exact same

theorem happen_record (effect : Action.Effect) : (happen s effect).Ensures h
    (fun _ h' => h'.record = h.record) fun _ h' => h'.record = h.record := by
  cases effect with
  | cancel id => exact Act.ensures_bind.mpr (atDesk_record _)
  | _ => exact atDesk_record _

theorem happenAll_record : ∀ (effects : List Action.Effect) {h : Held σ}, (happenAll s effects).Ensures h
    (fun _ h' => h'.record = h.record) fun _ h' => h'.record = h.record
  | [], _ => rfl
  | effect :: rest, h => by
    refine Act.ensures_bind.mpr ((happen_record effect).mono ?_ fun _ _ same => same)
    intro _ h' same
    exact (happenAll_record rest).mono (fun _ _ same' => same'.trans same) fun _ _ same' => same'.trans same

/-- An action that is sent out comes back with an answer, and the record is as it was. -/
theorem send_record (sending : Sending) (limit : Option Binary64) : (send s sending limit).Ensures h
    (fun _ h' => h'.record = h.record) fun _ _ => False := by
  refine Act.ensures_bind.mpr (ensures_inWorld.mpr (Act.ensures_bind.mpr (Act.ensures_attempt.mpr ?_)))
  refine (happenAll_record _).mono ?_ ?_
  · exact fun _ _ same => same
  · exact fun _ _ same => same

/-- The way on is looked up in the graph and touches nothing. -/
theorem ensures_successor {g : Graph} {id : String} {good : String → Held σ → Prop} {bad : Failure → Held σ → Prop}
    (value : ∀ next, good next h) (failure : ∀ f, bad f h) : (successor g id).Ensures h good bad := by
  unfold successor
  split
  · exact value _
  · exact failure _

/-- From running, the run fails with what is noted as its error. -/
theorem fail_turned (node : Node) (message : String) (status : h.record.status = .running) :
    (do
      Held.change fun e => { e with error := some message }
      become s .failed
      return none : Act (Held σ) (Option String)).Ensures h
      (fun next h' => Turned node h.record next h'.record) fun _ _ => False := by
  have can : h.record.status.canBecome .failed := by rw [status]; rfl
  simp only [Act.ensures_bind, ensures_change, ensures_become, Execution.become?, can, if_true,
    Status.isTerminal, Option.some.injEq, forall_eq', reduceCtorEq, false_implies, and_true, Act.ensures_pure]
  exact .fails (.refl _) message _

/-- What the failure of an action makes of the record: the run leads on all the same, or it fails. -/
theorem actionFailed_turned (node : Node) (a : Action) (message : String) (status : h.record.status = .running) :
    (actionFailed s node a message).Ensures h (fun next h' => Turned node h.record next h'.record)
      fun _ h' => Onward h.record h'.record := by
  refine Act.ensures_bind.mpr ((log_onward _ _ _ _ _).mono ?_ fun _ _ on => on)
  intro _ h' on
  refine Act.ensures_bind.mpr (ensures_current.mpr ?_)
  split
  · exact Act.ensures_bind.mpr (ensures_successor (fun next => .leads next on) fun _ => on)
  · exact (fail_turned node message (on.status.trans status)).mono (fun _ _ => .of_onward on) fun _ _ none => none.elim

/-- Where the failure of an action names no way on, the run has failed. -/
theorem actionFailed_ends (node : Node) (a : Action) (message : String) :
    (actionFailed s node a message).Ensures h (fun next h' => next = none → h'.record.status = .failed)
      fun _ _ => True := by
  refine Act.ensures_bind.mpr ((log_onward _ _ _ _ _).mono ?_ fun _ _ _ => trivial)
  intro _ h' _
  refine Act.ensures_bind.mpr (ensures_current.mpr ?_)
  split
  · exact Act.ensures_bind.mpr (ensures_successor (fun next => by simp) fun _ => trivial)
  · refine Act.ensures_bind.mpr (ensures_change.mpr (Act.ensures_bind.mpr (ensures_become.mpr ⟨?_, fun _ => trivial⟩)))
    intro e moved _
    exact status_of_become? moved

/-- Settings are filled in from the variables and touch nothing. -/
theorem ensures_rendered {a : Action} {good : Members → Held σ → Prop} {bad : Failure → Held σ → Prop}
    (value : ∀ config, good config h) (failure : ∀ f, bad f h) : (rendered a).Ensures h good bad :=
  Act.ensures_bind.mpr (ensures_current.mpr (Act.ensures_lift.mpr ⟨fun config _ => value config, fun _ _ => failure _⟩))

theorem perform_turned (limits : Limits) (node : Node) (a : Action) (status : h.record.status = .running) :
    (perform s limits node a).Ensures h (fun next h' => Turned node h.record next h'.record)
      fun _ h' => Onward h.record h'.record := by
  refine Act.ensures_bind.mpr (ensures_rendered (fun config => ?_) fun _ => .refl _)
  refine Act.ensures_bind.mpr (ensures_current.mpr (Act.ensures_bind.mpr ?_))
  refine (send_record _ _).mono ?_ fun _ _ none => none.elim
  intro answer h₁ same
  have on : Onward h.record h₁.record := same ▸ .refl _
  cases answer with
  | error message =>
    exact (actionFailed_turned node a message (on.status.trans status)).mono (fun _ _ => .of_onward on)
      fun _ _ => on.trans
  | ok result =>
    refine Act.ensures_bind.mpr (ensures_change.mpr ?_)
    have on₁ : Onward h.record { h₁.record with vars := Ordered.overlay h₁.record.vars result.output } :=
      on.trans ⟨⟨rfl, rfl, rfl⟩, rfl, rfl, rfl, rfl, rfl⟩
    refine Act.ensures_bind.mpr ((log_onward _ _ _ _ _).mono ?_ fun _ _ => on₁.trans)
    intro _ h₂ on₂
    have onward := on₁.trans on₂
    exact Act.ensures_bind.mpr (ensures_successor (fun next => .leads next onward) fun _ => onward)

theorem decide_turned (node : Node) (expression : String) (status : h.record.status = .running) :
    (Run.decide s node expression).Ensures h (fun next h' => Turned node h.record next h'.record)
      fun _ h' => Onward h.record h'.record := by
  refine Act.ensures_bind.mpr (ensures_current.mpr ?_)
  split
  · split
    · refine Act.ensures_bind.mpr ((log_onward _ _ _ _ _).mono ?_ fun _ _ on => on)
      intro _ h₁ on
      exact (fail_turned node _ (on.status.trans status)).mono (fun _ _ => .of_onward on) fun _ _ none => none.elim
    · exact Onward.refl _
  · refine Act.ensures_bind.mpr ((log_onward _ _ _ _ _).mono ?_ fun _ _ on => on)
    intro _ h₁ on
    split
    · exact .leads _ on
    · exact on

/-- What comes of trying to park suits the action and can be read, and the record is as it was but for the log. -/
theorem parking_onward (node : Node) (a : Action) (time : Instant) (config : Members) (parks : a.kind.parks) :
    (parking s node a time config).Ensures h
      (fun outcome h' => Onward h.record h'.record ∧ ∀ wait message, outcome = .waits wait message →
        wait.Suits a.kind ∧ wait.Readable time.isAware)
      fun _ h' => Onward h.record h'.record := by
  unfold parking
  by_cases delay : a.kind = .delay
  · simp only [delay, if_true, Act.ensures_bind, Act.ensures_lift, Act.ensures_pure]
    have none : Onward h.record h.record := .refl _
    refine ⟨fun seconds _ => ⟨fun resumeAt reckoned => ⟨none, ?_⟩, fun _ _ => none⟩, fun _ _ => none⟩
    rintro wait message same
    cases same
    refine ⟨.delay resumeAt, by simp, ?_, by simp⟩
    intro aware point same
    cases same
    rw [isAware_of_after reckoned, aware]
  · have condition : a.kind = .waitCondition := by
      cases kind : a.kind <;> simp_all [ActionKind.parks]
    have none : Onward h.record h.record := .refl _
    simp only [delay, if_false, Act.ensures_bind, Act.ensures_lift, ensures_current]
    refine ⟨fun expression _ => ⟨fun holds held => ?_, fun _ _ => none⟩, fun _ _ => none⟩
    cases holds with
    | true =>
      refine Act.ensures_bind.mpr ((log_onward _ _ _ _ _).mono ?_ fun _ _ on => on)
      intro _ h₁ on
      exact Act.ensures_bind.mpr (ensures_successor (fun next => ⟨on, fun _ _ same => by cases same⟩) fun _ => on)
    | false =>
      simp only [Bool.false_eq_true, if_false, Act.ensures_bind, Act.ensures_lift]
      refine ⟨fun limit _ => ?_, fun _ _ => none⟩
      have waits {deadline : Option Instant}
          (reckoned : time.isAware → ∀ point, deadline = some point → point.isAware) : ∀ wait message,
          Parking.waits ⟨Option.none, some expression, deadline⟩
            ("Waiting for condition " ++ Text.quoted expression) = .waits wait message →
          wait.Suits a.kind ∧ wait.Readable time.isAware := by
        rintro wait message same
        cases same
        rw [condition]
        refine ⟨.condition expression deadline, ?_, by simp, reckoned⟩
        intro _ same
        cases same
        exact Expr.compile_of_holds held
      cases limit with
      | none => exact ⟨none, waits (by simp)⟩
      | some seconds =>
        refine Act.ensures_bind.mpr (Act.ensures_map.mpr (Act.ensures_lift.mpr ⟨?_, fun _ _ => none⟩))
        intro deadline reckoned
        refine ⟨none, waits ?_⟩
        intro aware point same
        cases same
        rw [isAware_of_after reckoned, aware]

theorem park_turned (node : Node) (a : Action) (kind : node.task = .action a) (parks : a.kind.parks)
    (status : h.record.status = .running) :
    (park s node a).Ensures h (fun next h' => Turned node h.record next h'.record)
      fun _ h' => Onward h.record h'.record := by
  refine Act.ensures_bind.mpr (ensures_now.mpr (Act.ensures_bind.mpr ?_))
  refine ensures_rendered (fun config => ?_) fun _ => .refl _
  refine Act.ensures_bind.mpr (Act.ensures_attempt.mpr ((parking_onward node a _ config parks).mono ?_ ?_))
  · rintro (⟨wait, message⟩ | next) h₁ ⟨on, suits⟩
    · refine Act.ensures_bind.mpr ((log_onward _ _ _ _ _).mono ?_ fun _ _ => on.trans)
      intro _ h₂ on₂
      have running := (on.trans on₂).status.trans status
      have can : h₂.record.status.canBecome .waiting := by rw [running]; rfl
      simp only [Act.ensures_bind, ensures_change, ensures_become, Execution.become?, can, if_true,
        Status.isTerminal, Bool.false_eq_true, if_false, Option.some.injEq, forall_eq', reduceCtorEq,
        false_implies, and_true, Act.ensures_pure]
      exact .parks (on.trans on₂) kind (suits wait message rfl).1
    · exact .leads next on
  · intro failure h₁ on
    show Act.Ensures (if failure.blamesValue then actionFailed s node a failure.message else Act.fail failure) h₁ _ _
    split
    · exact (actionFailed_turned node a _ (on.status.trans status)).mono (fun _ _ => .of_onward on)
        fun _ _ => on.trans
    · exact on

end Acts

end TriggerFlow.Run
