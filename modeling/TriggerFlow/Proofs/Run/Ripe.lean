import TriggerFlow.Proofs.Run.Due

/-!
# When a wait is found to be over

The rules by which waiting runs are found tell four ways in which a wait can be over: its point in time has come and it
has no condition, its deadline has come, its condition holds, or the condition cannot be evaluated. There is one
question that they cannot answer: which of two points in time is the earlier one if only one of them tells its offset.
They ask it of a deadline only once the point in time before it has come.
-/

namespace TriggerFlow

namespace Instant

/-- One reading is not later than another, and both tell their offsets or neither does. -/
def Reached (point time : Instant) : Prop := point.isAware = time.isAware ∧ point.universal ≤ time.universal

/-- One reading is later than another, and both tell their offsets or neither does. -/
def Ahead (point time : Instant) : Prop := point.isAware = time.isAware ∧ time.universal < point.universal

variable {point time : Instant}

/-- How two readings stand to each other. -/
theorem reached_or_ahead_or_mixed (point time : Instant) :
    point.Reached time ∨ point.Ahead time ∨ point.isAware ≠ time.isAware := by
  by_cases same : point.isAware = time.isAware
  · rcases Int.lt_or_le time.universal point.universal with later | earlier
    · exact .inr (.inl ⟨same, later⟩)
    · exact .inl ⟨same, earlier⟩
  · exact .inr (.inr same)

theorem Ahead.not_reached (ahead : point.Ahead time) : ¬ point.Reached time := fun reached =>
  Int.not_le.mpr ahead.2 reached.2

end Instant

namespace Wait

variable {wait : Wait} {vars : Members} {time : Instant}

/-- The point in time of a wait has come, if it has one. -/
def Elapsed (wait : Wait) (time : Instant) : Prop := ∀ point, wait.resumeAt = some point → point.Reached time

/-- The deadline of a wait is still ahead, if it has one. -/
def Lasts (wait : Wait) (time : Instant) : Prop := ∀ deadline, wait.deadline = some deadline → deadline.Ahead time

/-- The wait is over at a point in time. -/
inductive Over (wait : Wait) (vars : Members) (time : Instant) : Prop where
  | elapsed (elapsed : wait.Elapsed time) (plain : wait.expression = none)
  | late {expression : String} {deadline : Instant} (elapsed : wait.Elapsed time)
    (condition : wait.expression = some expression) (limit : wait.deadline = some deadline)
    (reached : deadline.Reached time)
  | holds {expression : String} (elapsed : wait.Elapsed time) (condition : wait.expression = some expression)
    (lasts : wait.Lasts time) (holds : Expr.holds expression vars = .ok true)
  | broken {expression : String} {fault : Expr.Fault} (elapsed : wait.Elapsed time)
    (condition : wait.expression = some expression) (lasts : wait.Lasts time)
    (broken : Expr.holds expression vars = .error fault)

/-- A wait asks for the order of two points in time of which only one tells its offset. -/
inductive Mixed (wait : Wait) (time : Instant) : Prop where
  | resumeAt {point : Instant} (named : wait.resumeAt = some point) (mixed : point.isAware ≠ time.isAware)
  | deadline {expression : String} {point : Instant} (elapsed : wait.Elapsed time)
    (condition : wait.expression = some expression) (named : wait.deadline = some point)
    (mixed : point.isAware ≠ time.isAware)

theorem Over.toElapsed (past : wait.Over vars time) : wait.Elapsed time := by
  cases past <;> assumption

theorem Over.not_mixed (past : wait.Over vars time) : ¬ wait.Mixed time := by
  rintro (⟨named, mixed⟩ | ⟨-, condition, named, mixed⟩)
  · exact mixed (past.toElapsed _ named).1
  · cases past with
    | elapsed elapsed plain => cases plain.symm.trans condition
    | late elapsed other limit reached =>
      cases limit.symm.trans named
      exact mixed reached.1
    | holds elapsed other lasts holds => exact mixed (lasts _ named).1
    | broken elapsed other lasts broken => exact mixed (lasts _ named).1

/-- Between points in time that all tell their offsets there is no such question. -/
theorem Readable.not_mixed {timed : Prop} (readable : wait.Readable timed) (told : timed) (aware : time.isAware) :
    ¬ wait.Mixed time := by
  rintro (⟨named, mixed⟩ | ⟨-, -, named, mixed⟩)
  · exact mixed ((readable.resumeAt told _ named).trans aware.symm)
  · exact mixed ((readable.deadline told _ named).trans aware.symm)

/-- If they do and the time does not, there is one as soon as the wait names a point in time. -/
theorem Readable.mixed_iff {timed : Prop} (readable : wait.Readable timed) (told : timed)
    (naive : time.isAware = false) :
    wait.Mixed time ↔ wait.resumeAt ≠ none ∨ wait.expression ≠ none ∧ wait.deadline ≠ none := by
  constructor
  · rintro (⟨named, -⟩ | ⟨-, condition, named, -⟩)
    · exact .inl (by simp [named])
    · exact .inr ⟨by simp [condition], by simp [named]⟩
  · intro names
    cases named : wait.resumeAt with
    | some point => exact .resumeAt named (by simp [readable.resumeAt told point named, naive])
    | none =>
      obtain ⟨conditional, limited⟩ := names.resolve_left (by simp [named])
      obtain ⟨expression, condition⟩ := Option.ne_none_iff_exists'.mp conditional
      obtain ⟨deadline, limit⟩ := Option.ne_none_iff_exists'.mp limited
      have elapsed : wait.Elapsed time := fun point other => by cases named.symm.trans other
      exact .deadline elapsed condition limit (by simp [readable.deadline told deadline limit, naive])

end Wait

namespace Execution

variable {e : Execution} {time : Instant} {context : Members}

/-- A run waits for something that is over at a point in time and in a context. -/
def Due (e : Execution) (time : Instant) (context : Members) : Prop :=
  ∃ wait, e.wait = some wait ∧ wait.Over (Ordered.overlay e.vars context) time

/-- A run waits for something, and whether that is over cannot be told at a point in time. -/
def Mixed (e : Execution) (time : Instant) : Prop := ∃ wait, e.wait = some wait ∧ wait.Mixed time

end Execution

namespace Run

open Wait (Over Mixed)

variable {time point : Instant} {wait : Wait} {e : Execution} {context : Members}

theorem before_of_reached (reached : point.Reached time) : before time point = .ok false := by
  rw [before, Instant.order?, if_pos reached.1.symm]
  simp [Int.compare_eq_lt, reached.2]

theorem before_of_ahead (ahead : point.Ahead time) : before time point = .ok true := by
  rw [before, Instant.order?, if_pos ahead.1.symm]
  simp [Int.compare_eq_lt, ahead.2]

theorem before_of_mixed (mixed : point.isAware ≠ time.isAware) : before time point = .error .mixedOrder := by
  rw [before, Instant.order?, if_neg mixed.symm]

theorem beforeSome_of_elapsed (elapsed : wait.Elapsed time) : beforeSome time wait.resumeAt = .ok false := by
  cases named : wait.resumeAt with
  | none => rfl
  | some point => exact before_of_reached (elapsed point named)

/-- What the rules may answer of a wait. -/
inductive Judged (wait : Wait) (vars : Members) (time : Instant) : Except Failure Bool → Prop where
  | past (past : wait.Over vars time) : Judged wait vars time (.ok true)
  | goesOn (goesOn : ¬ wait.Over vars time) (told : ¬ wait.Mixed time) : Judged wait vars time (.ok false)
  | mixed (mixed : wait.Mixed time) : Judged wait vars time (.error (.time .mixedOrder))

section Rules

variable (waits : e.status = .waiting) (here : e.wait = some wait)
include waits here

/-- A condition is asked for only while the deadline is ahead. -/
theorem judged_of_condition {expression : String} (elapsed : wait.Elapsed time)
    (condition : wait.expression = some expression) (compiles : Expr.compile expression ≠ .error .zeroCharacter) :
    Judged wait (Ordered.overlay e.vars context) time (isDue e time context) := by
  have asked := isDue_of_condition waits here condition (beforeSome_of_elapsed elapsed) context
  have told (lasts : wait.Lasts time) : ¬ wait.Mixed time := by
    rintro (⟨named, mixed⟩ | ⟨-, -, named, mixed⟩)
    · exact mixed (elapsed _ named).1
    · exact mixed (lasts _ named).1
  have asks (lasts : wait.Lasts time) (still : ahead wait time = .ok true) :
      Judged wait (Ordered.overlay e.vars context) time (isDue e time context) := by
    rw [asked, still]
    rcases held : Expr.holds expression (Ordered.overlay e.vars context) with fault | _ | _
    · change Judged _ _ _ (if fault.isExpression then .ok true else .error (.expression fault))
      rw [if_pos (Expr.isExpression_of_holds compiles held)]
      exact .past (.broken elapsed condition lasts held)
    · refine .goesOn ?_ (told lasts)
      rintro (⟨-, plain⟩ | ⟨-, -, limit, reached⟩ | ⟨-, other, -, holds⟩ | ⟨-, other, -, broken⟩)
      · cases plain.symm.trans condition
      · exact (lasts _ limit).not_reached reached
      · cases condition.symm.trans other
        cases held.symm.trans holds
      · cases condition.symm.trans other
        cases held.symm.trans broken
    · exact .past (.holds elapsed condition lasts held)
  cases limit : wait.deadline with
  | none => exact asks (fun _ named => by cases limit.symm.trans named) (by rw [ahead, limit])
  | some deadline =>
    rcases deadline.reached_or_ahead_or_mixed time with reached | later | mixed
    · have passed : ahead wait time = .ok false := by
        simp only [ahead, limit, before_of_reached reached]
        rfl
      rw [asked, passed]
      exact .past (.late elapsed condition limit reached)
    · refine asks (fun _ named => by cases limit.symm.trans named; exact later) ?_
      simp only [ahead, limit, before_of_ahead later]
      rfl
    · have unknown : ahead wait time = .error (.time .mixedOrder) := by
        simp only [ahead, limit, before_of_mixed mixed]
        rfl
      rw [asked, unknown]
      exact .mixed (.deadline elapsed condition limit mixed)

/-- The rules answer that a wait is over exactly if it is, and have no answer exactly if points in time are mixed. -/
theorem judged_of_readable {timed : Prop} (readable : wait.Readable timed) :
    Judged wait (Ordered.overlay e.vars context) time (isDue e time context) := by
  have elapsing (elapsed : wait.Elapsed time) :
      Judged wait (Ordered.overlay e.vars context) time (isDue e time context) := by
    cases condition : wait.expression with
    | some expression =>
      exact judged_of_condition waits here elapsed condition (readable.expression expression condition)
    | none =>
      have answer : isDue e time context = .ok true := by
        simp only [isDue, waits, here, beforeSome_of_elapsed elapsed, condition]
        rfl
      exact answer ▸ .past (.elapsed elapsed condition)
  cases named : wait.resumeAt with
  | none => exact elapsing fun _ other => by cases named.symm.trans other
  | some point =>
    rcases point.reached_or_ahead_or_mixed time with reached | later | mixed
    · exact elapsing fun _ other => by cases named.symm.trans other; exact reached
    · have answer : isDue e time context = .ok false := by
        simp only [isDue, waits, here, named, beforeSome, before_of_ahead later]
        rfl
      have early : ¬ wait.Elapsed time := fun elapsed => later.not_reached (elapsed _ named)
      refine answer ▸ .goesOn (fun past => early past.toElapsed) ?_
      rintro (⟨other, mixed⟩ | ⟨elapsed, -, -, -⟩)
      · cases named.symm.trans other
        exact mixed later.1
      · exact early elapsed
    · have answer : isDue e time context = .error (.time .mixedOrder) := by
        simp only [isDue, waits, here, named, beforeSome, before_of_mixed mixed]
        rfl
      exact answer ▸ .mixed (.resumeAt named mixed)

end Rules

section Readable

variable {timed : Prop} (waits : e.status = .waiting) (readable : e.Readable timed)
include waits readable

theorem isDue_eq_true_iff : isDue e time context = .ok true ↔ e.Due time context := by
  obtain ⟨wait, here, readable⟩ := readable waits
  have judged : Judged wait (Ordered.overlay e.vars context) time (isDue e time context) :=
    judged_of_readable waits here readable
  have due : e.Due time context ↔ wait.Over (Ordered.overlay e.vars context) time := by
    simp [Execution.Due, here]
  rw [due]
  generalize isDue e time context = answer at judged
  cases judged with
  | past past => exact iff_of_true rfl past
  | goesOn goesOn told => exact iff_of_false nofun goesOn
  | mixed mixed => exact iff_of_false nofun fun past => past.not_mixed mixed

theorem isDue_eq_error_iff {failure : Failure} :
    isDue e time context = .error failure ↔ failure = .time .mixedOrder ∧ e.Mixed time := by
  obtain ⟨wait, here, readable⟩ := readable waits
  have judged : Judged wait (Ordered.overlay e.vars context) time (isDue e time context) :=
    judged_of_readable waits here readable
  have mixed : e.Mixed time ↔ wait.Mixed time := by
    simp [Execution.Mixed, here]
  rw [mixed]
  generalize isDue e time context = answer at judged
  cases judged with
  | past past => exact iff_of_false nofun fun mixed => past.not_mixed mixed.2
  | goesOn goesOn told => exact iff_of_false nofun fun mixed => told mixed.2
  | mixed mixed => simp [eq_comm, mixed]

end Readable

end Run

end TriggerFlow
