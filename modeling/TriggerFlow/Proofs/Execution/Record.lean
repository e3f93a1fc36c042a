import TriggerFlow.Execution.Record
import TriggerFlow.Proofs.Json.Plain
import TriggerFlow.Proofs.Workflow.Record

/-!
# Executions as records keep them

The record of an execution has all of its members, so it reads back as the execution, with its log and what it waits
for, but for the odd seconds of offsets. An entry that is added to the log is added to the record.
-/

namespace TriggerFlow

open Record
open Reading (map_of_value seq_of_value)

theorem Outcome.named?_name (outcome : Outcome) : named? outcome.name = some outcome := by cases outcome <;> decide

namespace LogEntry

/-- An entry as a file keeps it. -/
def recorded (entry : LogEntry) : LogEntry := { entry with time := entry.time.recorded }

theorem ofRecord_toRecord (fresh : Fresh) {entry : LogEntry} (shown : entry.time.Shown) :
    ofRecord fresh entry.toRecord = .value entry.recorded := by
  refine seq_of_value (seq_of_value (seq_of_value (seq_of_value (seq_of_value
    (map_of_value _ (optional_of_get? _ rfl (instant_text shown))) (required_of_get? rfl (text_text _)))
    (required_of_get? rfl (text_text _))) (required_of_get? rfl (choice_name entry.outcome.named?_name)))
    (required_of_get? rfl (text_text _))) (optional_of_get? _ rfl ?_)
  show _ = Reading.value entry.data
  cases entry.data <;> rfl

end LogEntry

namespace Wait

/-- What is waited for as a file keeps it. -/
def recorded (wait : Wait) : Wait :=
  { wait with resumeAt := wait.resumeAt.map Instant.recorded, deadline := wait.deadline.map Instant.recorded }

/-- A property of every point in time that is waited for. -/
structure Times (P : Instant → Prop) (wait : Wait) : Prop where
  resume : ∀ t ∈ wait.resumeAt, P t
  deadline : ∀ t ∈ wait.deadline, P t

theorem ofRecord_toRecord {wait : Wait} (shown : wait.Times Instant.Shown) :
    ofRecord wait.toRecord = .value wait.recorded :=
  seq_of_value (seq_of_value (map_of_value _ (optional_of_get? _ rfl (nullable_instantRecord shown.resume)))
    (optional_of_get? _ rfl (nullable_ofText? _))) (optional_of_get? _ rfl (nullable_instantRecord shown.deadline))

end Wait

namespace Execution

/-- An execution as a file keeps it. -/
def recorded (e : Execution) : Execution :=
  { e with
    startedAt := e.startedAt.recorded
    completedAt := e.completedAt.map Instant.recorded
    log := e.log.map LogEntry.recorded
    wait := e.wait.map Wait.recorded }

/-- A property of every point in time that an execution tells. -/
structure Times (P : Instant → Prop) (e : Execution) : Prop where
  started : P e.startedAt
  completed : ∀ t ∈ e.completedAt, P t
  log : ∀ entry ∈ e.log, P entry.time
  wait : ∀ wait ∈ e.wait, wait.Times P

theorem Times.mono {P Q : Instant → Prop} {e : Execution} (times : e.Times P) (step : ∀ t, P t → Q t) : e.Times Q where
  started := step _ times.started
  completed t mem := step t (times.completed t mem)
  log entry mem := step _ (times.log entry mem)
  wait wait mem := ⟨fun t found => step t ((times.wait wait mem).resume t found),
    fun t found => step t ((times.wait wait mem).deadline t found)⟩

theorem Times.append {P : Instant → Prop} {e : Execution} {entry : LogEntry} (times : e.Times P) (time : P entry.time) :
    Times P { e with log := e.log ++ [entry] } where
  started := times.started
  completed := times.completed
  log := by simpa [or_imp, forall_and] using ⟨times.log, time⟩
  wait := times.wait

theorem map_recorded {time : Option Instant} (minutes : ∀ t ∈ time, t.InMinutes) :
    time.map Instant.recorded = time := by
  cases here : time with
  | none => rfl
  | some t => exact congrArg some (minutes t here).recorded_eq

/-- Where all offsets are in whole minutes, a file keeps an execution as it is. -/
theorem Times.recorded_eq {e : Execution} (minutes : e.Times Instant.InMinutes) : e.recorded = e := by
  obtain ⟨started, completed, log, wait⟩ := minutes
  have entries : e.log.map LogEntry.recorded = e.log := by
    conv_rhs => rw [← List.map_id e.log]
    refine List.map_congr_left fun entry mem => ?_
    rw [LogEntry.recorded, (log entry mem).recorded_eq]
    rfl
  have waits : e.wait.map Wait.recorded = e.wait := by
    cases here : e.wait with
    | none => rfl
    | some w =>
      have times := wait w here
      rw [Option.map_some, Wait.recorded, map_recorded times.resume, map_recorded times.deadline]
  rw [recorded, started.recorded_eq, map_recorded completed, entries, waits]

/-- An execution is read member by member. -/
theorem ofRecord_eq_value_iff {fresh : Fresh} {m : Members} {e : Execution} : ofRecord fresh (.object m) = .value e ↔
    optional m "id" fresh.id text = .value e.id ∧ required m "workflow_id" text = .value e.workflowId ∧
    optional m "status" .pending (choice .notAChoice Status.named?) = .value e.status ∧
    optional m "trigger_type" .manual (choice .notAChoice TriggerKind.named?) = .value e.trigger ∧
    optional m "started_at" fresh.now instant = .value e.startedAt ∧
    optional m "completed_at" none (nullable instant) = .value e.completedAt ∧
    optional m "current_node_id" none (nullable text) = .value e.nodeId ∧
    optional m "variables" [] members = .value e.vars ∧
    optional m "logs" [] (items (LogEntry.ofRecord fresh)) = .value e.log ∧
    optional m "error" none (nullable text) = .value e.error ∧
    optional m "graph" ⟨[], [], 1⟩ Graph.ofRecord = .value e.graph ∧
    optional m "wait" none (nullable Wait.ofRecord) = .value e.wait := by
  constructor
  · intro reads
    obtain ⟨_, wait, made11, h12, rfl⟩ := Reading.seq_eq_value reads
    obtain ⟨_, graph, made10, h11, rfl⟩ := Reading.seq_eq_value made11
    obtain ⟨_, error, made9, h10, rfl⟩ := Reading.seq_eq_value made10
    obtain ⟨_, log, made8, h9, rfl⟩ := Reading.seq_eq_value made9
    obtain ⟨_, vars, made7, h8, rfl⟩ := Reading.seq_eq_value made8
    obtain ⟨_, node, made6, h7, rfl⟩ := Reading.seq_eq_value made7
    obtain ⟨_, completed, made5, h6, rfl⟩ := Reading.seq_eq_value made6
    obtain ⟨_, started, made4, h5, rfl⟩ := Reading.seq_eq_value made5
    obtain ⟨_, trigger, made3, h4, rfl⟩ := Reading.seq_eq_value made4
    obtain ⟨_, status, made2, h3, rfl⟩ := Reading.seq_eq_value made3
    obtain ⟨_, workflow, made1, h2, rfl⟩ := Reading.seq_eq_value made2
    obtain ⟨id, h1, rfl⟩ := Reading.map_eq_value made1
    exact ⟨h1, h2, h3, h4, h5, h6, h7, h8, h9, h10, h11, h12⟩
  · rintro ⟨h1, h2, h3, h4, h5, h6, h7, h8, h9, h10, h11, h12⟩
    exact seq_of_value (seq_of_value (seq_of_value (seq_of_value (seq_of_value (seq_of_value (seq_of_value
      (seq_of_value (seq_of_value (seq_of_value (seq_of_value
        (map_of_value _ h1) h2) h3) h4) h5) h6) h7) h8) h9) h10) h11) h12

/-- The datum of what may be waited for. -/
theorem nullable_wait {e : Execution} (shown : e.Times Instant.Shown) :
    nullable Wait.ofRecord (match e.wait with
      | some wait => wait.toRecord
      | none => .null) = .value (e.wait.map Wait.recorded) := by
  cases here : e.wait with
  | none => rfl
  | some wait => exact nullable_of_ne_null (by simp [Wait.toRecord]) (Wait.ofRecord_toRecord (shown.wait wait here))

/-- The record of an execution reads back. -/
theorem ofRecord_toRecord (fresh : Fresh) {e : Execution} (accepted : e.graph.Accepted)
    (shown : e.Times Instant.Shown) :
    ofRecord fresh e.toRecord = .value e.recorded :=
  ofRecord_eq_value_iff.mpr ⟨optional_of_get? _ rfl (text_text _), required_of_get? rfl (text_text _),
    optional_of_get? _ rfl (choice_name e.status.named?_name),
    optional_of_get? _ rfl (choice_name e.trigger.named?_name), optional_of_get? _ rfl (instant_text shown.started),
    optional_of_get? _ rfl (nullable_instantRecord shown.completed),
    optional_of_get? _ rfl (nullable_ofText? _), optional_of_get? _ rfl (members_object _),
    optional_of_get? _ rfl (items_map fun entry mem => LogEntry.ofRecord_toRecord fresh (shown.log entry mem)),
    optional_of_get? _ rfl (nullable_ofText? _), optional_of_get? _ rfl (Graph.ofRecord_toRecord accepted),
    optional_of_get? _ rfl (nullable_wait shown)⟩

/-- Another log makes another record. -/
theorem isPlain_append {e : Execution} {entry : LogEntry} (plain : e.toRecord.isPlain = true)
    (addition : entry.toRecord.isPlain = true) :
    (toRecord { e with log := e.log ++ [entry] }).isPlain = true := by
  obtain ⟨distinct, each⟩ := Json.isPlain_object.mp plain
  refine Json.isPlain_object.mpr ⟨distinct, ?_⟩
  simp only [List.forall_mem_cons, Json.isPlain_list, List.map_append, List.forall_mem_append] at each ⊢
  simpa [addition] using each

end Execution

end TriggerFlow
