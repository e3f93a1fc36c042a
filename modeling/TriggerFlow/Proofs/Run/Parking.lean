import TriggerFlow.Proofs.Graph.Settings
import TriggerFlow.Proofs.Run.Tolerance
import TriggerFlow.Proofs.Variables.Fixed

/-!
# What validates and can be waited for

The settings of a delay or a wait that hold no placeholder are read when a graph is checked and read again, by the same
rules, when a run comes to the node. The check does not know what time it will be then. So the run parks there, for just
as long as the settings say, unless that is longer than a length of time can be, or ends beyond the calendar.
-/

namespace TriggerFlow

namespace Run

/-- A point in time lies so many seconds after another, counted in whole microseconds. -/
def Ends (time : Instant) (seconds : Binary64) (later : Instant) : Prop :=
  ∃ micros, Duration.ofSeconds seconds = .ok micros ∧ Instant.inCalendar (time.wall + micros) = true ∧
    later = ⟨time.wall + micros, time.offset⟩

theorem after_eq_ok_iff {time later : Instant} {seconds : Binary64} :
    after time seconds = .ok later ↔ Ends time seconds later := by
  unfold after Ends Instant.later?
  constructor
  · intro reckoned
    split at reckoned
    · cases reckoned
    · rename_i micros length
      split_ifs at reckoned with room
      cases reckoned
      exact ⟨micros, length, room, rfl⟩
  · rintro ⟨micros, length, room, rfl⟩
    simp only [length, room, if_true]

/-- No point in time lies so many seconds after another, for the given reason. -/
inductive Beyond (time : Instant) (seconds : Binary64) : SpanFault → Prop
  | length {fault : DurationFault} (refused : Duration.ofSeconds seconds = .error fault) :
    Beyond time seconds (.length fault)
  | calendar {micros : Int} (length : Duration.ofSeconds seconds = .ok micros)
    (outside : Instant.inCalendar (time.wall + micros) = false) : Beyond time seconds .beyondCalendar

theorem after_eq_error_iff {time : Instant} {seconds : Binary64} {fault : SpanFault} :
    after time seconds = .error fault ↔ Beyond time seconds fault := by
  unfold after Instant.later?
  constructor
  · intro reckoned
    split at reckoned
    · rename_i refused
      cases reckoned
      exact .length refused
    · rename_i micros length
      split_ifs at reckoned with room
      cases reckoned
      exact .calendar length (by simpa using room)
  · intro beyond
    cases beyond with
    | length refused => rw [refused]
    | calendar length outside => simp only [length, outside, Bool.false_eq_true, if_false]

/-- What an action waits for at a point in time, by its settings as they stand, and how that is told. -/
inductive Awaits (a : Action) (vars : Members) (time : Instant) : Wait → String → Prop
  | delay {seconds : Binary64} {later : Instant} (kind : a.kind = .delay)
    (length : Action.delaySeconds a.config = .ok seconds) (ends : Ends time seconds later) :
    Awaits a vars time ⟨some later, none, none⟩ ("Waiting until " ++ later.text)
  | endless {expression : String} (kind : a.kind = .waitCondition)
    (given : Action.waitExpression a.config = .ok expression) (unmet : Expr.holds expression vars = .ok false)
    (unlimited : Action.waitLimit a.config = .ok none) :
    Awaits a vars time ⟨none, some expression, none⟩ ("Waiting for condition " ++ Text.quoted expression)
  | limited {expression : String} {seconds : Binary64} {deadline : Instant} (kind : a.kind = .waitCondition)
    (given : Action.waitExpression a.config = .ok expression) (unmet : Expr.holds expression vars = .ok false)
    (limit : Action.waitLimit a.config = .ok (some seconds)) (ends : Ends time seconds deadline) :
    Awaits a vars time ⟨none, some expression, some deadline⟩ ("Waiting for condition " ++ Text.quoted expression)

/-- There is nothing to wait for: the condition of the settings holds already. -/
structure Met (a : Action) (vars : Members) (expression : String) : Prop where
  kind : a.kind = .waitCondition
  given : Action.waitExpression a.config = .ok expression
  holds : Expr.holds expression vars = .ok true

/-- The length of a delay, or the limit of a wait, does not lead to a point in time. -/
inductive Overlong (a : Action) (vars : Members) (time : Instant) : SpanFault → Prop
  | delay {seconds : Binary64} {fault : SpanFault} (kind : a.kind = .delay)
    (length : Action.delaySeconds a.config = .ok seconds) (beyond : Beyond time seconds fault) :
    Overlong a vars time fault
  | limit {expression : String} {seconds : Binary64} {fault : SpanFault} (kind : a.kind = .waitCondition)
    (given : Action.waitExpression a.config = .ok expression) (unmet : Expr.holds expression vars = .ok false)
    (limit : Action.waitLimit a.config = .ok (some seconds)) (beyond : Beyond time seconds fault) :
    Overlong a vars time fault

section

variable {a : Action} {vars : Members} {time : Instant}

theorem Awaits.parks {wait : Wait} {message : String} (awaits : Awaits a vars time wait message) :
    a.kind.parks = true := by
  cases awaits with
  | delay kind | endless kind | limited kind => rw [kind]; rfl

theorem Met.parks {expression : String} (met : Met a vars expression) : a.kind.parks = true := by
  rw [met.kind]
  rfl

theorem Overlong.parks {fault : SpanFault} (overlong : Overlong a vars time fault) : a.kind.parks = true := by
  cases overlong with
  | delay kind | limit kind => rw [kind]; rfl

end

section Settings

variable {g : Graph} {node : Node} {a : Action}

/-- The length of a delay that has been checked can be read. -/
theorem exists_length (sound : g.defects = .ok []) (here : node ∈ g.nodes) (task : node.task = .action a)
    (fixed : Template.membersFixed a.config = true) (kind : a.kind = .delay) :
    ∃ seconds, Action.delaySeconds a.config = .ok seconds := by
  cases length : Action.delaySeconds a.config with
  | ok seconds => exact ⟨seconds, rfl⟩
  | error fault =>
    have plain := Template.not_isTemplated (Template.isFixed_member fixed (Action.delayKey a.config))
    exact absurd (.action task (.delay kind plain length)) (Graph.usable_of_sound sound here _)

/-- So can the condition and the limit of a wait. -/
theorem exists_condition (sound : g.defects = .ok []) (here : node ∈ g.nodes) (task : node.task = .action a)
    (fixed : Template.membersFixed a.config = true) (kind : a.kind = .waitCondition) :
    ∃ expression limit, Action.waitExpression a.config = .ok expression ∧ Action.waitLimit a.config = .ok limit := by
  have usable := Graph.usable_of_sound sound here
  cases given : Action.waitExpression a.config with
  | error fault => exact absurd (.action task (.unasked kind given)) (usable _)
  | ok expression =>
    rcases Graph.awaitable_or expression with awaitable | ⟨refusal, plain, refused⟩
    · cases limit : Action.waitLimit a.config with
      | error fault =>
        have plain := Template.not_isTemplated (Template.isFixed_member fixed "timeout")
        exact absurd (.action task (.limit kind given awaitable plain limit)) (usable _)
      | ok _ => exact ⟨expression, _, rfl, rfl⟩
    · exact absurd (.action task (.expression kind given plain refused)) (usable _)

/-- Whatever the time is, the settings that have been checked come to one of three things, unless a condition cannot be
evaluated. -/
theorem prospects (sound : g.defects = .ok []) (here : node ∈ g.nodes) (task : node.task = .action a)
    (fixed : Template.membersFixed a.config = true) (parks : a.kind.parks = true) {vars : Members}
    (evaluates : a.kind = .waitCondition → ∀ expression, Action.waitExpression a.config = .ok expression →
      ∃ b, Expr.holds expression vars = .ok b) (time : Instant) :
    (∃ wait message, Awaits a vars time wait message) ∨ (∃ expression, Met a vars expression) ∨
      ∃ fault, Overlong a vars time fault := by
  by_cases kind : a.kind = .delay
  · obtain ⟨seconds, length⟩ := exists_length sound here task fixed kind
    cases ends : after time seconds with
    | ok later => exact .inl ⟨_, _, .delay kind length (after_eq_ok_iff.mp ends)⟩
    | error fault => exact .inr (.inr ⟨fault, .delay kind length (after_eq_error_iff.mp ends)⟩)
  · have kind : a.kind = .waitCondition := by
      cases same : a.kind <;> simp_all [ActionKind.parks]
    obtain ⟨expression, limit, given, limited⟩ := exists_condition sound here task fixed kind
    obtain ⟨b, value⟩ := evaluates kind expression given
    cases b with
    | true => exact .inr (.inl ⟨expression, kind, given, value⟩)
    | false =>
      cases limit with
      | none => exact .inl ⟨_, _, .endless kind given value limited⟩
      | some seconds =>
        cases ends : after time seconds with
        | ok deadline => exact .inl ⟨_, _, .limited kind given value limited (after_eq_ok_iff.mp ends)⟩
        | error fault => exact .inr (.inr ⟨fault, .limit kind given value limited (after_eq_error_iff.mp ends)⟩)

end Settings

/-- A run that has been parked. -/
def parkedAt (e : Execution) (entry : LogEntry) (wait : Wait) : Execution :=
  { logged e entry with wait := some wait, status := .waiting }

/-- What a visit makes of a run, in hand and in the store. -/
structure Lodged {σ : Type} {s : Surroundings σ} (k : Ledger s) (h h' : Held σ) (e : Execution) : Prop where
  record : h'.record = e
  stored : k.record h'.desk.world h.record.id = some e

/-- What comes of a visit `v` to an action that parks its run, in a drive of a stored record: the run waits where there
is something to wait for, and goes on where there is nothing. It fails where the length does not fit, except that an
action may let a length that is no number pass. -/
structure Honours {σ : Type} {s : Surroundings σ} (k : Ledger s) (g : Graph) (limits : Limits) (entry : Entry)
    (d : Desk σ) (e : Execution) (v : Held σ) (node : Node) (a : Action) : Prop where
  waits : ∀ wait message, Awaits a v.record.vars (s.now v.desk.world) wait message → ∃ w,
    visit s limits v = (.ok (), w) ∧
      Lodged k v w (parkedAt v.record
        ⟨s.now v.desk.world, node.id, actionLabel node a, .success, message, some wait.present⟩ wait) ∧
      (entry.enter s limits e).Ensures d (fun driven d' =>
        (driven.copy = w.record ∨ driven.copy.status = .cancelled) ∧ k.record d'.world e.id = some driven.copy)
        fun _ _ => False
  passes : ∀ expression, Met a v.record.vars expression → ∃ w edge, visit s limits v = (.ok (), w) ∧
    g.outgoing node.id = [edge] ∧ Lodged k v w
      { logged v.record ⟨s.now v.desk.world, node.id, actionLabel node a, .success,
        "Wait condition " ++ Text.quoted expression ++ " already met", none⟩ with nodeId := some edge.target }
  tolerates : Overlong a v.record.vars (s.now v.desk.world) (.length .nan) → a.continueOnError = true → ∃ w,
    visit s limits v = (.ok (), w) ∧ Tolerated k g node a (Failure.span (.length .nan)).message v w
  fails : ∀ fault, Overlong a v.record.vars (s.now v.desk.world) fault →
    (fault = .length .nan → a.continueOnError = false) →
      (entry.enter s limits e).Ensures d (fun driven d' => driven.copy.status = .failed ∧
        driven.copy.nodeId = some node.id ∧ driven.copy.error = some (Failure.span fault).message ∧
          k.record d'.world e.id = some driven.copy) fun _ _ => False

section Parking

variable {σ : Type} {s : Surroundings σ} {k : Ledger s} {g : Graph} {limits : Limits} {entry : Entry}
  {h h' v : Held σ} {node : Node} {a : Action} {time : Instant} {wait : Wait} {message : String} {fault : SpanFault}

theorem parking_of_awaits (awaits : Awaits a h.record.vars time wait message) :
    (parking s node a time a.config).Ensures h (fun parked h' => parked = .waits wait message ∧ h' = h)
      fun _ _ => False := by
  unfold parking
  cases awaits with
  | delay kind length ends => simp [kind, length, after_eq_ok_iff.mpr ends]
  | endless kind given unmet unlimited => simp [kind, given, unmet, unlimited]
  | limited kind given unmet limit ends => simp [kind, given, unmet, limit, after_eq_ok_iff.mpr ends]

theorem parking_of_overlong (overlong : Overlong a h.record.vars time fault) :
    (parking s node a time a.config).Ensures h (fun _ _ => False)
      fun failure h' => failure = .span fault ∧ h' = h := by
  unfold parking
  cases overlong with
  | delay kind length beyond => simp [kind, length, after_eq_error_iff.mpr beyond]
  | limit kind given unmet limit beyond => simp [kind, given, unmet, limit, after_eq_error_iff.mpr beyond]

/-- What is stored before a run goes on is what is in hand. -/
theorem goOn_lodged {h₁ : Held σ} (valid : k.valid h₁.desk.world) (own : h₁.record.id = h.record.id)
    (next : Option String) : (goOn s next).Ensures h₁
      (fun _ h' => Lodged k h h' { h₁.record with nodeId := next.or h₁.record.nodeId }) fun _ _ => False := by
  refine (goOn_spec valid next).mono ?_ fun _ _ none => none
  rintro - h' ⟨record, -, becomes⟩
  exact ⟨record, by rw [becomes.record, own, Function.update_self, record]⟩

/-- Settings without placeholders are the same when they have been filled in. -/
theorem rendered_of_fixed (fixed : Template.membersFixed a.config = true) : rendered a h = (.ok a.config, h) := by
  have same : Act.lift Failure.path (Template.renderMembers h.record.vars a.config) h = (.ok a.config, h) := by
    rw [Template.renderMembers_of_fixed h.record.vars fixed]
    rfl
  exact same

/-- A run that is running can come to wait, and nothing else of its record changes. -/
theorem become_waiting (running : h.record.status = .running) : (become s .waiting).Ensures h
    (fun _ h' => h' = { h with record := { h.record with status := .waiting } }) fun _ _ => False := by
  have moves : h.record.become? .waiting (s.now h.desk.world) = some { h.record with status := .waiting } := by
    rw [Execution.become?, running]
    rfl
  refine ensures_become.mpr ⟨?_, ?_⟩
  · intro e moved
    cases moves.symm.trans moved
    rfl
  · intro none
    cases moves.symm.trans none

section Visit

variable (at_ : Visits k g h node) (kind : node.task = .action a) (fixed : Template.membersFixed a.config = true)
include at_ fixed

theorem park_of_awaits (awaits : Awaits a h.record.vars (s.now h.desk.world) wait message) :
    (park s node a).Ensures h (fun next h' => next = none ∧ k.valid h'.desk.world ∧ h'.record =
      parkedAt h.record ⟨s.now h.desk.world, node.id, actionLabel node a, .success, message, some wait.present⟩ wait)
      fun _ _ => False := by
  refine Act.ensures_bind.mpr (ensures_now.mpr ((Act.ensures_bind_of_ok (rendered_of_fixed fixed)).mpr ?_))
  refine Act.ensures_bind.mpr (Act.ensures_attempt.mpr ((parking_of_awaits awaits).mono ?_ fun _ _ none => none.elim))
  rintro _ _ ⟨rfl, rfl⟩
  refine Act.ensures_bind.mpr ((log_stored at_.valid at_.stored ..).mono ?_ fun _ _ none => none)
  rintro - h₁ ⟨record, wrote, -, -⟩
  refine Act.ensures_bind.mpr (ensures_change.mpr ?_)
  refine Act.ensures_bind.mpr ((become_waiting ?_).mono ?_ fun _ _ none => none)
  · show h₁.record.status = .running
    rw [record]
    exact at_.running
  · rintro - _ rfl
    refine ⟨rfl, wrote.valid, ?_⟩
    rw [parkedAt, ← record]

theorem park_of_met (kind : node.task = .action a) {expression : String} (met : Met a h.record.vars expression) :
    (park s node a).Ensures h (fun next h' => k.valid h'.desk.world ∧ ∃ edge, g.outgoing node.id = [edge] ∧
      next = some edge.target ∧ h'.record = logged h.record ⟨s.now h.desk.world, node.id, actionLabel node a, .success,
        "Wait condition " ++ Text.quoted expression ++ " already met", none⟩)
      fun _ _ => False := by
  obtain ⟨edge, leads⟩ := at_.sound.action_leads node (Graph.mem_of_node? at_.found).1 a kind
  have parked : (parking s node a (s.now h.desk.world) a.config).Ensures h
      (fun parked h' => parked = .goesOn edge.target ∧ k.valid h'.desk.world ∧ h'.record = logged h.record
        ⟨s.now h.desk.world, node.id, actionLabel node a, .success,
          "Wait condition " ++ Text.quoted expression ++ " already met", none⟩) fun _ _ => False := by
    have condition : ¬ a.kind = .delay := by simp [met.kind]
    simp only [parking, condition, if_false, met.given, met.holds, Act.ensures_bind, Act.ensures_lift, ensures_current,
      Except.ok.injEq, forall_eq', if_true]
    refine ⟨⟨?_, by simp⟩, by simp⟩
    refine (log_stored at_.valid at_.stored ..).mono ?_ fun _ _ none => none
    rintro - h₁ ⟨record, wrote, -, -⟩
    rw [at_.graph, successor, leads]
    exact ⟨rfl, wrote.valid, record⟩
  refine Act.ensures_bind.mpr (ensures_now.mpr ((Act.ensures_bind_of_ok (rendered_of_fixed fixed)).mpr ?_))
  refine Act.ensures_bind.mpr (Act.ensures_attempt.mpr (parked.mono ?_ fun _ _ none => none.elim))
  rintro _ h' ⟨rfl, valid, record⟩
  exact ⟨valid, edge, leads, rfl, record⟩

omit at_ in
/-- A length that does not fit is a failure of the action if it is no number, and else it breaks the visit off. -/
theorem park_of_overlong (overlong : Overlong a h.record.vars (s.now h.desk.world) fault)
    {good : Option String → Held σ → Prop} {bad : Failure → Held σ → Prop}
    (answers : Act.Ensures (if (Failure.span fault).blamesValue then actionFailed s node a (Failure.span fault).message
      else Act.fail (.span fault)) h good bad) : (park s node a).Ensures h good bad := by
  refine Act.ensures_bind.mpr (ensures_now.mpr ((Act.ensures_bind_of_ok (rendered_of_fixed fixed)).mpr ?_))
  refine Act.ensures_bind.mpr (Act.ensures_attempt.mpr ((parking_of_overlong overlong).mono ?_ ?_))
  · exact fun _ _ none => none.elim
  · rintro _ _ ⟨rfl, rfl⟩
    exact answers

end Visit

/-- An action that is not to go on after an error fails its run where it stands. -/
theorem actionFailed_stops (at_ : Visits k g h node) (strict : a.continueOnError = false) (message : String) :
    (actionFailed s node a message).Ensures h (fun next h' => next = none ∧ k.valid h'.desk.world ∧
      h'.record.id = h.record.id ∧ h'.record.status = .failed ∧ h'.record.nodeId = h.record.nodeId ∧
        h'.record.error = some message) fun _ _ => False := by
  refine Act.ensures_bind.mpr ((log_stored at_.valid at_.stored ..).mono ?_ fun _ _ none => none)
  rintro - h₁ ⟨record, wrote, -, -⟩
  refine Act.ensures_bind.mpr (ensures_current.mpr ?_)
  rw [if_neg (by simp [strict])]
  have can : h₁.record.status.canBecome .failed := by rw [record]; exact at_.can_become rfl
  refine change_become_spec wrote.valid ⟨rfl, rfl, rfl⟩ rfl rfl can ?_
  intro h₂ moved _ failed
  have wrote := wrote.trans failed
  exact ⟨rfl, wrote.valid, wrote.run.id, moved.status, wrote.nodeId, moved.error⟩

section Reaching

variable (sound : g.Valid) (live : Live k g v) (running : v.record.status = .running)
  (here : v.record.nodeId = some node.id) (found : g.node? node.id = some node) (kind : node.task = .action a)
  (parks : a.kind.parks = true) (fixed : Template.membersFixed a.config = true)

include live here found kind parks in
/-- A visit of a node that parks runs is what is done there, and what follows from it. -/
theorem visit_of_park {bad : Failure → Held σ → Prop} {good : Unit → Held σ → Prop}
    (parked : (park s node a).Ensures v (fun next h' => (goOn s next).Ensures h' good bad) bad) :
    (visit s limits).Ensures v good bad := by
  refine (Act.ensures_bind_of_ok (currentNode_ok live.graph here found)).mpr ?_
  rw [kind]
  simp only [parks, if_true]
  exact Act.ensures_bind.mpr parked

variable (limits)
include sound live running here found kind fixed

/-- Where there is something to wait for, the run waits. -/
theorem visit_waits (awaits : Awaits a v.record.vars (s.now v.desk.world) wait message) :
    (visit s limits).Ensures v (fun _ h' => Lodged k v h' (parkedAt v.record
      ⟨s.now v.desk.world, node.id, actionLabel node a, .success, message, some wait.present⟩ wait))
      fun _ _ => False := by
  have at_ := live.visits sound running found
  refine visit_of_park live here found kind awaits.parks
    ((park_of_awaits at_ fixed awaits).mono ?_ fun _ _ none => none)
  rintro _ h₁ ⟨rfl, valid, record⟩
  have own : h₁.record.id = v.record.id := by
    rw [record]
    rfl
  refine (goOn_lodged valid own none).mono ?_ fun _ _ none => none
  intro _ h₂ lodged
  rwa [record] at lodged

/-- Where there is nothing to wait for, the run goes on. -/
theorem visit_passes {expression : String} (met : Met a v.record.vars expression) :
    (visit s limits).Ensures v (fun _ h' => ∃ edge, g.outgoing node.id = [edge] ∧ Lodged k v h'
      { logged v.record ⟨s.now v.desk.world, node.id, actionLabel node a, .success,
        "Wait condition " ++ Text.quoted expression ++ " already met", none⟩ with nodeId := some edge.target })
      fun _ _ => False := by
  have at_ := live.visits sound running found
  refine visit_of_park live here found kind met.parks ((park_of_met at_ fixed kind met).mono ?_ fun _ _ none => none)
  rintro _ h₁ ⟨valid, edge, leads, rfl, record⟩
  have own : h₁.record.id = v.record.id := by
    rw [record]
    rfl
  refine (goOn_lodged valid own _).mono ?_ fun _ _ none => none
  intro _ h₂ lodged
  rw [record] at lodged
  exact ⟨edge, leads, lodged⟩

/-- Where a length does not fit, the run has failed or is about to, unless it is no number and may be gone past. -/
theorem visit_fails (overlong : Overlong a v.record.vars (s.now v.desk.world) fault)
    (strict : fault = .length .nan → a.continueOnError = false) :
    (visit s limits).Ensures v (fun _ h' => h'.record.status = .failed ∧ h'.record.nodeId = some node.id ∧
      h'.record.error = some (Failure.span fault).message ∧ k.record h'.desk.world v.record.id = some h'.record)
      fun failure h' => failure = .span fault ∧ h' = v := by
  have at_ := live.visits sound running found
  refine visit_of_park live here found kind overlong.parks (park_of_overlong fixed overlong ?_)
  by_cases blames : fault = .length .nan
  · subst blames
    refine (actionFailed_stops at_ (strict rfl) _).mono ?_ fun _ _ none => none.elim
    rintro _ h₁ ⟨rfl, valid, own, failed, there, error⟩
    refine (goOn_lodged valid own none).mono ?_ fun _ _ none => none.elim
    rintro - h₂ ⟨record, stored⟩
    rw [record]
    exact ⟨failed, there.trans here, error, stored⟩
  · have foreign : (Failure.span fault).blamesValue = false := by
      cases fault with
      | beyondCalendar => rfl
      | length fault =>
        cases fault with
        | nan => exact absurd rfl blames
        | _ => rfl
    rw [if_neg (by simp [foreign])]
    exact ⟨rfl, rfl⟩

/-- A length that is no number may be gone past like any other failure of the action. -/
theorem visit_of_nan (overlong : Overlong a v.record.vars (s.now v.desk.world) (.length .nan))
    (tolerant : a.continueOnError = true) : (visit s limits).Ensures v
      (fun _ h' => Tolerated k g node a (Failure.span (.length .nan)).message v h') fun _ _ => False := by
  refine visit_of_park live here found kind overlong.parks (park_of_overlong fixed overlong ?_)
  have goesOn := actionFailed_tolerates (s := s) sound found kind live.graph live.ready.valid live.present tolerant
    (Failure.span (.length .nan)).message
  exact goesOn.mono (fun _ _ noted => noted.goOn running) fun _ _ none => none

end Reaching

section Ending

variable {d : Desk σ} {e : Execution}

/-- A loop that is entered with a run that does not run leaves it as it is, or cancelled. -/
theorem loop_left (limits : Limits) (budget : Nat) (live : Live k g h) (rests : h.record.status ≠ .running) :
    (loop s limits budget).Ensures h (fun _ h' => Left k g h h' ∧ h'.record.id = h.record.id) fun _ _ => False := by
  have looks : (mayVisit s).Ensures h (fun go h' => go = false ∧ Left k g h h' ∧ h'.record.id = h.record.id)
      fun _ _ => False := by
    refine ((mayVisit_spec live).and ((proceeding k).keeps_mayVisit h live.ready)).mono ?_ fun _ _ none => none.1
    rintro (_ | _) h' ⟨spec, p⟩
    · exact ⟨rfl, spec, p.run.id⟩
    · exact absurd spec.1 rests
  cases budget with
  | zero | succ =>
    refine Act.ensures_bind.mpr (looks.mono ?_ fun _ _ none => none)
    rintro _ h' ⟨rfl, left⟩
    exact left

/-- One that is entered with a run that has failed does nothing. -/
theorem loop_of_failed (limits : Limits) (budget : Nat) (failed : h.record.status = .failed) :
    (loop s limits budget).Ensures h (fun _ h' => h' = h) fun _ _ => False := by
  have looks : (mayVisit s).Ensures h (fun go h' => go = false ∧ h' = h) fun _ _ => False := by
    simp [mayVisit, settleParked, ensures_current, failed]
  cases budget with
  | zero | succ =>
    refine Act.ensures_bind.mpr (looks.mono ?_ fun _ _ none => none)
    rintro _ _ ⟨rfl, rfl⟩
    rfl

variable (free : e.id ∉ d.active) (status : e.status = entry.expected)
  (mem : v ∈ visitsOf s limits entry.expected (entry.opening s) (claimed d e))
include free status mem

/-- A drive whose visit has left the run at rest ends with the run as it was left, or cancelled there. -/
theorem enter_of_rest (visited : visit s limits v = (.ok (), h)) (live : Live k g h) (own : h.record.id = e.id)
    (rests : h.record.status ≠ .running) : (entry.enter s limits e).Ensures d
      (fun driven d' => (driven.copy = h.record ∨ driven.copy.status = .cancelled) ∧
        k.record d'.world e.id = some driven.copy) fun _ _ => False := by
  have takes : Takes s limits entry (claimed d e) ⟨v, callOf v.record, _, h⟩ := .visits mem visited
  obtain ⟨budget, rest⟩ := takes.rest
  rw [Act.ensures_of_eq (entry.enter_eq limits free (entry.admits_of_status status))]
  refine ensures_drive.mpr (Act.ensures_recover.mpr ((Act.ensures_of_eq rest).mpr ?_))
  refine Act.ensures_bind.mpr ((loop_left limits budget live rests).mono ?_ fun _ _ none => none.elim)
  rintro _ h' ⟨left, same⟩
  refine ⟨left.as_was.imp And.left And.left, ?_⟩
  rw [← own, ← same]
  exact left.live.stored

/-- A drive whose visit has failed ends with the run failed there. -/
theorem enter_of_failure {failure : Failure} (visited : visit s limits v = (.error failure, v)) (live : Live k g v)
    (own : v.record.id = e.id) (running : v.record.status = .running) : (entry.enter s limits e).Ensures d
      (fun driven d' => driven.copy.status = .failed ∧ driven.copy.nodeId = v.record.nodeId ∧
        driven.copy.error = some failure.message ∧ k.record d'.world e.id = some driven.copy) fun _ _ => False := by
  have takes : Takes s limits entry (claimed d e) ⟨v, callOf v.record, _, v⟩ := .visits mem visited
  obtain ⟨budget, rest⟩ := takes.rest
  rw [Act.ensures_of_eq (entry.enter_eq limits free (entry.admits_of_status status))]
  refine ensures_drive.mpr (Act.ensures_recover.mpr ((Act.ensures_of_eq rest).mpr ?_))
  have lives : v.record.status.canBecome .failed := by rw [running]; rfl
  refine Act.ensures_bind.mpr ((abort_spec live.ready.valid lives failure).mono ?_ fun _ _ none => none)
  rintro - h' ⟨ended, noted, record, -, stored⟩
  refine ⟨by rw [record]; rfl, by rw [record]; rfl, by rw [record]; rfl, ?_⟩
  rcases stored with ⟨lost, -⟩ | ⟨-, becomes⟩
  · exact absurd lost live.present
  · rw [← own]
    show k.record h'.desk.world v.record.id = _
    rw [becomes.record, Function.update_self]

/-- A drive whose visit has failed the run ends there too. -/
theorem enter_of_failed (visited : visit s limits v = (.ok (), h)) (failed : h.record.status = .failed) :
    (entry.enter s limits e).Ensures d (fun driven d' => driven.copy = h.record ∧ d'.world = h.desk.world)
      fun _ _ => False := by
  have takes : Takes s limits entry (claimed d e) ⟨v, callOf v.record, _, h⟩ := .visits mem visited
  obtain ⟨budget, rest⟩ := takes.rest
  rw [Act.ensures_of_eq (entry.enter_eq limits free (entry.admits_of_status status))]
  refine ensures_drive.mpr (Act.ensures_recover.mpr ((Act.ensures_of_eq rest).mpr ?_))
  refine Act.ensures_bind.mpr ((loop_of_failed limits budget failed).mono ?_ fun _ _ none => none.elim)
  rintro _ _ rfl
  exact ⟨rfl, rfl⟩

end Ending

/-- **What validates is waited for, as long as it fits the calendar.** However and whenever the stored record of a run
of a graph without defects is taken up, each visit to a delay or a wait whose settings hold no placeholder parks the run
as the settings say, or lets it go on. If the condition of a wait can be evaluated, the only other end is that of a
length that does not fit. -/
theorem Life.honours {id : String} {d : Desk σ} {seen : List (Held σ)} {e : Execution} (defects : g.defects = .ok [])
    (life : Life k limits g id d seen) (stored : k.record d.world id = some e) (status : e.status = entry.expected)
    (mem : v ∈ visitsOf s limits entry.expected (entry.opening s) (claimed d e))
    (here : v.record.nodeId = some node.id) (found : g.node? node.id = some node) (kind : node.task = .action a)
    (parks : a.kind.parks = true) (fixed : Template.membersFixed a.config = true) :
    Honours k g limits entry d e v node a ∧
      ((a.kind = .waitCondition → ∀ expression, Action.waitExpression a.config = .ok expression →
          ∃ b, Expr.holds expression v.record.vars = .ok b) →
        (∃ wait message, Awaits a v.record.vars (s.now v.desk.world) wait message) ∨
          (∃ expression, Met a v.record.vars expression) ∨
            ∃ fault, Overlong a v.record.vars (s.now v.desk.world) fault) := by
  have sound := Graph.valid_of_defects defects
  obtain ⟨rank, ranking⟩ := sound.ranked
  have sane := life.sane sound ranking
  have live := sane.live stored
  obtain rfl := k.id_of_record sane.valid stored
  obtain ⟨live', running⟩ := visitsOf_live limits sound live status (entry.begins sound) mem
  have keeps : Keeps k (entry.opening s) := entry.keeps_opening (proceeding k).toStoring
  have own : v.record.id = e.id := (visitsOf_sameRun keeps live.ready mem).id
  refine ⟨⟨?_, ?_, ?_, ?_⟩, fun evaluates =>
    prospects defects (Graph.mem_of_node? found).1 kind fixed parks evaluates _⟩
  · intro wait message awaits
    have waits := visit_waits limits sound live' running here found kind fixed awaits
    rcases visited : visit s limits v with ⟨_ | _, w⟩
    · exact (waits.of_error visited).elim
    · have lodged := waits.of_ok visited
      obtain ⟨_, _, _, _, _, went⟩ := (visit_spec limits sound live' running).of_ok visited
      have same : w.record.id = v.record.id := by
        rw [lodged.record]
        rfl
      have rests : w.record.status ≠ .running := by
        rw [lodged.record]
        nofun
      exact ⟨w, rfl, lodged, enter_of_rest sane.free status mem visited went.live (same.trans own) rests⟩
  · intro expression met
    have passes := visit_passes limits sound live' running here found kind fixed met
    rcases visited : visit s limits v with ⟨_ | _, w⟩
    · exact (passes.of_error visited).elim
    · obtain ⟨edge, leads, lodged⟩ := passes.of_ok visited
      exact ⟨w, edge, rfl, leads, lodged⟩
  · intro overlong tolerant
    have tolerates := visit_of_nan limits sound live' running here found kind fixed overlong tolerant
    rcases visited : visit s limits v with ⟨_ | _, w⟩
    · exact (tolerates.of_error visited).elim
    · exact ⟨w, rfl, tolerates.of_ok visited⟩
  · intro fault overlong strict
    have fails := visit_fails limits sound live' running here found kind fixed overlong strict
    rcases visited : visit s limits v with ⟨failure | _, w⟩
    · obtain ⟨rfl, rfl⟩ := fails.of_error visited
      rw [← here]
      exact enter_of_failure sane.free status mem visited live' own running
    · obtain ⟨failed, there, error, stored⟩ := fails.of_ok visited
      refine (enter_of_failed sane.free status mem visited failed).mono ?_ fun _ _ none => none
      rintro driven d' ⟨copy, world⟩
      rw [copy, world]
      exact ⟨failed, there, error, own ▸ stored⟩

end Parking

end Run

namespace Trial

open Run

/-- A run of a graph with that delay has been created at nine. -/
theorem lenient_life (settings : Members) :
    Life books bounds (lenient settings) "run" (atNine (lenient settings)) [] :=
  .created (atNine_valid _) (by simp [atNine]) (created_stored _) rfl rfl ⟨rfl, rfl⟩
    (by simp [Books.calls, World.ledger, World.books, atNine])

/-- A delay of so many seconds. -/
def lasting (seconds : Int) : Members := [("seconds", .int seconds)]

theorem minute_sound : (lenient (lasting 60)).defects = .ok [] :=
  Graph.defects_of_sorted (by decide +kernel) (by decide +kernel) (by decide +kernel)

theorem ages_sound : (lenient (lasting (10 ^ 13))).defects = .ok [] :=
  Graph.defects_of_sorted (by decide +kernel) (by decide +kernel) (by decide +kernel)

/-- The state in which that run comes to the delay. -/
def Arrives (settings : Members) (v : Held (World Unit)) : Prop :=
  v ∈ visitsOf surroundings bounds Entry.start.expected (Entry.start.opening surroundings)
    (claimed (atNine (lenient settings)) (created (lenient settings))) ∧
    v.record.nodeId = some (lenientDelay settings).id ∧ surroundings.now v.desk.world = nine

theorem exists_arrival (settings : Members) (visited : (visitsOf surroundings bounds Entry.start.expected
      (Entry.start.opening surroundings) (claimed (atNine (lenient settings)) (created (lenient settings)))).any
        (fun v => v.record.nodeId = some (lenientDelay settings).id && surroundings.now v.desk.world = nine) = true) :
    ∃ v, Arrives settings v := by
  obtain ⟨v, mem, here⟩ := List.any_eq_true.mp visited
  simp only [Bool.and_eq_true, decide_eq_true_eq] at here
  exact ⟨v, mem, here⟩

/-- A delay of a minute is waited for. One that lasts beyond the calendar validates as well, and fails its run. -/
theorem minute_waits_ages_fail :
    (∃ v w, Arrives (lasting 60) v ∧ visit surroundings bounds v = (.ok (), w) ∧ w.record.status = .waiting ∧
      w.record.wait = some ⟨some ⟨nine.wall + 60000000, nine.offset⟩, none, none⟩) ∧
    ∃ v, Arrives (lasting (10 ^ 13)) v ∧ (start surroundings bounds (created (lenient (lasting (10 ^ 13))))).Ensures
      (atNine (lenient (lasting (10 ^ 13)))) (fun driven _ => driven.copy.status = .failed) fun _ _ => False := by
  constructor
  · obtain ⟨v, mem, here, time⟩ := exists_arrival (lasting 60) (by decide +kernel)
    have pending : (created (lenient (lasting 60))).status = Entry.start.expected := rfl
    have honours := ((lenient_life (lasting 60)).honours minute_sound (created_stored _) pending mem here rfl rfl rfl
      rfl).1
    have length : Action.delaySeconds (lasting 60) = .ok (Binary64.ofRatio false 60 1) := by decide +kernel
    have ends : Ends (surroundings.now v.desk.world) (Binary64.ofRatio false 60 1)
        ⟨nine.wall + 60000000, nine.offset⟩ := by
      rw [time]
      exact ⟨60000000, by decide +kernel, by decide +kernel, rfl⟩
    obtain ⟨w, visited, lodged, -⟩ := honours.waits _ _ (.delay rfl length ends)
    exact ⟨v, w, ⟨mem, here, time⟩, visited, by rw [lodged.record]; rfl, by rw [lodged.record]; rfl⟩
  · obtain ⟨v, mem, here, time⟩ := exists_arrival (lasting (10 ^ 13)) (by decide +kernel)
    have pending : (created (lenient (lasting (10 ^ 13)))).status = Entry.start.expected := rfl
    have honours := ((lenient_life (lasting (10 ^ 13))).honours ages_sound (created_stored _) pending mem here rfl rfl
      rfl rfl).1
    have length : Action.delaySeconds (lasting (10 ^ 13)) = .ok (Binary64.ofRatio false (10 ^ 13) 1) := by
      decide +kernel
    have beyond : Beyond (surroundings.now v.desk.world) (Binary64.ofRatio false (10 ^ 13) 1) .beyondCalendar := by
      rw [time]
      have micros : Duration.ofSeconds (Binary64.ofRatio false (10 ^ 13) 1) = .ok (10 ^ 19) := by decide +kernel
      exact .calendar micros (by decide +kernel)
    refine ⟨v, ⟨mem, here, time⟩, (honours.fails _ (.delay rfl length beyond) nofun).mono ?_ fun _ _ none => none⟩
    exact fun _ _ failed => failed.1

end Trial

end TriggerFlow
