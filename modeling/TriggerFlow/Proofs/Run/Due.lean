import TriggerFlow.Run.Drive

/-!
# When a wait is over

Whether a waiting run is due is decided twice, by rules of their own: once to find the runs that are to be taken up, and
once when a run has been taken up. The first rules ask for the deadline before they evaluate the condition, the second
ones after that. Whatever the first rules answer the second ones answer too, if the condition has been taken for an
expression before. And the first rules have an answer as long as all points in time tell their offsets.
-/

namespace TriggerFlow

/-- A wait that can be read: its condition has been taken for an expression, and its points in time tell their offsets
if the clock told its own. -/
structure Wait.Readable (timed : Prop) (wait : Wait) : Prop where
  expression : ∀ expression, wait.expression = some expression → Expr.compile expression ≠ .error .zeroCharacter
  resumeAt : timed → ∀ point, wait.resumeAt = some point → point.isAware
  deadline : timed → ∀ point, wait.deadline = some point → point.isAware

/-- A run that waits has a wait that can be read. -/
def Execution.Readable (timed : Prop) (e : Execution) : Prop :=
  e.status = .waiting → ∃ wait, e.wait = some wait ∧ wait.Readable timed

section

variable {timed : Prop}

theorem Wait.Readable.mono {told : Prop} {wait : Wait} (readable : wait.Readable told) (tells : timed → told) :
    wait.Readable timed :=
  ⟨readable.expression, fun clock => readable.resumeAt (tells clock), fun clock => readable.deadline (tells clock)⟩

theorem Execution.Readable.of_awake {e : Execution} (awake : e.status ≠ .waiting) : e.Readable timed :=
  fun waits => absurd waits awake

end

namespace Expr

variable {expression : String} {vars : Members}

/-- What has a value is an expression. -/
theorem compile_of_holds {b : Bool} (held : holds expression vars = .ok b) :
    compile expression ≠ .error .zeroCharacter := by
  intro refused
  rw [holds, evaluate, refused] at held
  cases held

/-- What has been taken for an expression once is to blame itself if it cannot be evaluated. -/
theorem isExpression_of_holds (compiles : compile expression ≠ .error .zeroCharacter) {fault : Fault}
    (failed : holds expression vars = .error fault) : fault.isExpression = true := by
  rw [holds, evaluate] at failed
  cases compiled : compile expression with
  | error refusal =>
    rw [compiled] at failed
    cases failed
    cases refusal with
    | zeroCharacter => exact absurd compiled compiles
    | _ => rfl
  | ok term =>
    rw [compiled] at failed
    dsimp only at failed
    split at failed <;> cases failed
    rfl

end Expr

namespace Run

variable {time point : Instant} {wait : Wait} {vars : Members}

/-- Points in time with known offsets can be ordered. -/
theorem before_of_aware (aware : time.isAware) (aware' : point.isAware) :
    before time point = .ok (time.order? point = some .lt) := by
  have same : time.isAware = point.isAware := by rw [aware, aware']
  rw [before, Instant.order?, if_pos same]
  simp

/-- What is reckoned from a point in time has the same offset. -/
theorem isAware_of_after {seconds : Binary64} (reckoned : after time seconds = .ok point) :
    point.isAware = time.isAware := by
  unfold after at reckoned
  split at reckoned
  · cases reckoned
  · rename_i micros
    split at reckoned
    · rename_i later found
      cases reckoned
      exact Instant.isAware_of_later? found
    · cases reckoned

theorem beforeSome_of_aware {point : Option Instant} (aware : time.isAware)
    (aware' : ∀ p, point = some p → p.isAware) : ∃ b, beforeSome time point = .ok b := by
  cases point with
  | none => exact ⟨false, rfl⟩
  | some p => exact ⟨_, before_of_aware aware (aware' p rfl)⟩

/-- A run is not due before the point in time that it waits for. -/
theorem isDue_of_early {e : Execution} (waits : e.status = .waiting) (here : e.wait = some wait)
    (resumes : wait.resumeAt = some point) (early : time.order? point = some .lt) (context : Members) :
    isDue e time context = .ok false := by
  simp only [isDue, waits, here, resumes, beforeSome, before, early]
  rfl

/-- Whether the deadline of a wait is still ahead; a wait without one can go on for ever. -/
def ahead (wait : Wait) (time : Instant) : Except Failure Bool :=
  match wait.deadline with
  | some deadline => (before time deadline).mapError .time
  | none => .ok true

section Condition

variable {expression : String}

/-- What the first rules make of a condition. -/
theorem isDue_of_condition {e : Execution} (waits : e.status = .waiting) (here : e.wait = some wait)
    (condition : wait.expression = some expression) (past : beforeSome time wait.resumeAt = .ok false)
    (context : Members) : isDue e time context = (do
      if !(← ahead wait time) then return true
      match Expr.holds expression (Ordered.overlay e.vars context) with
      | .ok b => return b
      | .error fault => if fault.isExpression then return true else .error (.expression fault)) := by
  simp only [isDue, waits, here, past, condition, ahead]
  cases wait.deadline with
  | none => rfl
  | some deadline =>
    dsimp only
    cases before time deadline <;> rfl

/-- What the second rules make of it. -/
theorem look_of_condition (condition : wait.expression = some expression)
    (past : beforeSome time wait.resumeAt = .ok false) : look wait vars time =
      match Expr.holds expression vars with
      | .error fault => if fault.isExpression then .ok (.failed fault.message) else .error (.expression fault)
      | .ok true => .ok (.met (some expression))
      | .ok false => do
        if (← ahead wait time) then return .notDue
        return .failed ("Wait condition " ++ Text.quoted expression ++ " not met before deadline") := by
  simp only [look, past, condition, ahead]
  cases Expr.holds expression vars with
  | error fault => rfl
  | ok b => cases b <;> cases wait.deadline <;> rfl

/-- Whatever the first rules make of a condition, the second ones agree. -/
theorem look_of_isDue_of_condition {e : Execution} (waits : e.status = .waiting) (here : e.wait = some wait)
    (condition : wait.expression = some expression) (compiles : Expr.compile expression ≠ .error .zeroCharacter)
    (past : beforeSome time wait.resumeAt = .ok false) {context : Members} {due : Bool}
    (asked : isDue e time context = .ok due) : ∃ found,
      look wait (Ordered.overlay e.vars context) time = .ok found ∧ (due = true ↔ found ≠ .notDue) := by
  rw [isDue_of_condition waits here condition past] at asked
  rw [look_of_condition condition past]
  generalize Ordered.overlay e.vars context = vars at asked ⊢
  generalize ahead wait time = still at asked ⊢
  rcases still with _ | _ | _
  · cases asked
  · cases asked
    rcases held : Expr.holds expression vars with fault | _ | _
    · exact ⟨_, if_pos (Expr.isExpression_of_holds compiles held), by simp⟩
    · exact ⟨_, rfl, by simp⟩
    · exact ⟨_, rfl, by simp⟩
  · rcases held : Expr.holds expression vars with fault | _ | _ <;> rw [held] at asked
    · have blamed := Expr.isExpression_of_holds compiles held
      cases (if_pos blamed).symm.trans asked
      exact ⟨_, if_pos blamed, by simp⟩
    · cases asked
      exact ⟨_, rfl, by simp⟩
    · cases asked
      exact ⟨_, rfl, by simp⟩

end Condition

section Rules

variable {timed : Prop} {e : Execution} (waits : e.status = .waiting) (here : e.wait = some wait)
  (readable : wait.Readable timed)
include waits here readable

/-- Whatever the first rules answer, the second ones agree. -/
theorem look_of_isDue {context : Members} {due : Bool} (asked : isDue e time context = .ok due) : ∃ found,
    look wait (Ordered.overlay e.vars context) time = .ok found ∧ (due = true ↔ found ≠ .notDue) := by
  cases condition : wait.expression with
  | none =>
    simp only [isDue, waits, here, condition] at asked
    simp only [look, condition]
    generalize beforeSome time wait.resumeAt = early at asked ⊢
    rcases early with _ | _ | _ <;> cases asked
    · exact ⟨_, rfl, by simp⟩
    · exact ⟨_, rfl, by simp⟩
  | some expression =>
    cases past : beforeSome time wait.resumeAt with
    | error fault =>
      simp only [isDue, waits, here, past] at asked
      cases asked
    | ok early =>
      cases early with
      | false =>
        have compiles := readable.expression expression condition
        exact look_of_isDue_of_condition waits here condition compiles past asked
      | true =>
        simp only [isDue, waits, here, past] at asked
        cases asked
        simp only [look, past]
        exact ⟨.notDue, rfl, by simp⟩

/-- The first rules have an answer as long as all points in time tell their offsets. -/
theorem isDue_answers (told : timed) (aware : time.isAware) (context : Members) :
    ∃ due, isDue e time context = .ok due := by
  obtain ⟨early, resumes⟩ := beforeSome_of_aware aware (readable.resumeAt told)
  cases early with
  | true =>
    simp only [isDue, waits, here, resumes]
    exact ⟨false, rfl⟩
  | false =>
    cases condition : wait.expression with
    | none =>
      simp only [isDue, waits, here, resumes, condition]
      exact ⟨true, rfl⟩
    | some expression =>
      obtain ⟨still, known⟩ : ∃ still, ahead wait time = .ok still := by
        rw [ahead]
        cases limit : wait.deadline with
        | none => exact ⟨true, rfl⟩
        | some deadline =>
          dsimp only
          rw [before_of_aware aware (readable.deadline told deadline limit)]
          exact ⟨_, rfl⟩
      rw [isDue_of_condition waits here condition resumes, known]
      cases still with
      | false => exact ⟨true, rfl⟩
      | true =>
        rcases held : Expr.holds expression (Ordered.overlay e.vars context) with fault | b
        · have compiles := readable.expression expression condition
          exact ⟨true, if_pos (Expr.isExpression_of_holds compiles held)⟩
        · exact ⟨b, rfl⟩

end Rules

end Run

end TriggerFlow
