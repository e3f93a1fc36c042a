import TriggerFlow.Proofs.Graph.Record
import TriggerFlow.Workflow

/-!
# Workflows as records keep them

The record of a workflow has all of its members, so it reads back as the workflow, but for the odd seconds of offsets.
What can be read from a record is such a workflow in turn.
-/

namespace TriggerFlow

open Record
open Reading (map_of_value seq_of_value)

namespace Record

theorem nullable_instantRecord {time : Option Instant} (shown : ∀ t ∈ time, t.Shown) :
    nullable instant (Workflow.instantRecord time) = .value (time.map Instant.recorded) := by
  cases time with
  | none => rfl
  | some t => exact nullable_of_ne_null (by simp [Workflow.instantRecord]) (instant_text (shown t rfl))

end Record

namespace Workflow

/-- A workflow as a file keeps it. -/
def recorded (w : Workflow) : Workflow :=
  { w with
    lastExecutedAt := w.lastExecutedAt.map Instant.recorded
    createdAt := w.createdAt.recorded
    updatedAt := w.updatedAt.recorded }

/-- A property of every point in time that a workflow tells. -/
structure Times (P : Instant → Prop) (w : Workflow) : Prop where
  lastExecuted : ∀ t ∈ w.lastExecutedAt, P t
  created : P w.createdAt
  updated : P w.updatedAt

theorem Times.mono {P Q : Instant → Prop} {w : Workflow} (times : w.Times P) (step : ∀ t, P t → Q t) : w.Times Q where
  lastExecuted t mem := step t (times.lastExecuted t mem)
  created := step _ times.created
  updated := step _ times.updated

/-- Where all offsets are in whole minutes, a file keeps a workflow as it is. -/
theorem Times.recorded_eq {w : Workflow} (minutes : w.Times Instant.InMinutes) : w.recorded = w := by
  obtain ⟨last, created, updated⟩ := minutes
  have same : w.lastExecutedAt.map Instant.recorded = w.lastExecutedAt := by
    cases time : w.lastExecutedAt with
    | none => rfl
    | some t => exact congrArg some (last t time).recorded_eq
  rw [recorded, same, created.recorded_eq, updated.recorded_eq]

/-- A workflow is read member by member. -/
theorem ofRecord_eq_value_iff {fresh : Fresh} {m : Members} {w : Workflow} : ofRecord fresh (.object m) = .value w ↔
    optional m "id" fresh.id text = .value w.id ∧ required m "name" text = .value w.name ∧
    optional m "description" "" text = .value w.description ∧ optional m "category" "" text = .value w.category ∧
    optional m "template_id" none (nullable text) = .value w.templateId ∧
    optional m "enabled" false truth = .value w.enabled ∧ optional m "version" 1 integer = .value w.version ∧
    optional m "nodes" [] (items Node.ofRecord) = .value w.nodes ∧
    optional m "edges" [] (items Edge.ofRecord) = .value w.edges ∧
    optional m "variables" [] members = .value w.vars ∧
    optional m "execution_count" 0 integer = .value w.executionCount ∧
    optional m "error_count" 0 integer = .value w.errorCount ∧
    optional m "last_executed_at" none (nullable instant) = .value w.lastExecutedAt ∧
    optional m "created_at" fresh.now instant = .value w.createdAt ∧
    optional m "updated_at" fresh.now instant = .value w.updatedAt := by
  constructor
  · intro reads
    obtain ⟨_, updated, made14, h15, rfl⟩ := Reading.seq_eq_value reads
    obtain ⟨_, created, made13, h14, rfl⟩ := Reading.seq_eq_value made14
    obtain ⟨_, last, made12, h13, rfl⟩ := Reading.seq_eq_value made13
    obtain ⟨_, errors, made11, h12, rfl⟩ := Reading.seq_eq_value made12
    obtain ⟨_, executions, made10, h11, rfl⟩ := Reading.seq_eq_value made11
    obtain ⟨_, vars, made9, h10, rfl⟩ := Reading.seq_eq_value made10
    obtain ⟨_, edges, made8, h9, rfl⟩ := Reading.seq_eq_value made9
    obtain ⟨_, nodes, made7, h8, rfl⟩ := Reading.seq_eq_value made8
    obtain ⟨_, version, made6, h7, rfl⟩ := Reading.seq_eq_value made7
    obtain ⟨_, enabled, made5, h6, rfl⟩ := Reading.seq_eq_value made6
    obtain ⟨_, template, made4, h5, rfl⟩ := Reading.seq_eq_value made5
    obtain ⟨_, category, made3, h4, rfl⟩ := Reading.seq_eq_value made4
    obtain ⟨_, description, made2, h3, rfl⟩ := Reading.seq_eq_value made3
    obtain ⟨_, name, made1, h2, rfl⟩ := Reading.seq_eq_value made2
    obtain ⟨id, h1, rfl⟩ := Reading.map_eq_value made1
    exact ⟨h1, h2, h3, h4, h5, h6, h7, h8, h9, h10, h11, h12, h13, h14, h15⟩
  · rintro ⟨h1, h2, h3, h4, h5, h6, h7, h8, h9, h10, h11, h12, h13, h14, h15⟩
    exact seq_of_value (seq_of_value (seq_of_value (seq_of_value (seq_of_value (seq_of_value (seq_of_value
      (seq_of_value (seq_of_value (seq_of_value (seq_of_value (seq_of_value (seq_of_value (seq_of_value
        (map_of_value _ h1) h2) h3) h4) h5) h6) h7) h8) h9) h10) h11) h12) h13) h14) h15

/-- The record of a workflow reads back. -/
theorem ofRecord_toRecord (fresh : Fresh) {w : Workflow} (accepted : w.graph.Accepted) (shown : w.Times Instant.Shown) :
    ofRecord fresh w.toRecord = .value w.recorded :=
  ofRecord_eq_value_iff.mpr ⟨optional_of_get? _ rfl (text_text _), required_of_get? rfl (text_text _),
    optional_of_get? _ rfl (text_text _), optional_of_get? _ rfl (text_text _),
    optional_of_get? _ rfl (nullable_ofText? _), optional_of_get? _ rfl (truth_bool _),
    optional_of_get? _ rfl (integer_int _), optional_of_get? _ rfl (Graph.items_nodes accepted),
    optional_of_get? _ rfl (Graph.items_edges w.edges), optional_of_get? _ rfl (members_object _),
    optional_of_get? _ rfl (integer_int _), optional_of_get? _ rfl (integer_int _),
    optional_of_get? _ rfl (nullable_instantRecord shown.lastExecuted),
    optional_of_get? _ rfl (instant_text shown.created), optional_of_get? _ rfl (instant_text shown.updated)⟩

theorem accepted_of_ofRecord {fresh : Fresh} {datum : Json} {w : Workflow} (reads : ofRecord fresh datum = .value w) :
    w.graph.Accepted := by
  cases datum with
  | object m =>
    obtain ⟨-, -, -, -, -, -, -, nodes, -⟩ := ofRecord_eq_value_iff.mp reads
    exact Graph.accepted_of_nodes nodes
  | _ => cases reads

end Workflow

end TriggerFlow
