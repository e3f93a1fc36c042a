import TriggerFlow.Proofs.Record.Plain
import TriggerFlow.Proofs.Workflow.Record

/-!
# Workflows that a file can hold

A workflow which has been read from plain data can be written as plain data again: every node with its configuration,
its place and its limit, the variables, and the counts.
-/

namespace TriggerFlow

open Record

namespace Position

/-- The datum of a place is plain if both of its coordinates are. -/
theorem isPlain_toRecord {p : Position} (x : (Json.float p.x).isPlain = true) (y : (Json.float p.y).isPlain = true) :
    p.toRecord.isPlain = true :=
  Json.isPlain_object.mpr ⟨show ["x", "y"].Nodup by decide, by simp [x, y]⟩

theorem isPlain_of_ofRecord {datum : Json} {p : Position} (plain : datum.isPlain = true)
    (reads : ofRecord datum = .value p) : p.toRecord.isPlain = true := by
  have zero : (Json.float (.zero false)).isPlain = true := by decide +kernel
  cases datum with
  | object m =>
    obtain ⟨_, y, first, ordinate, rfl⟩ := Reading.seq_eq_value reads
    obtain ⟨x, abscissa, rfl⟩ := Reading.map_eq_value first
    exact isPlain_toRecord
      (of_optional (P := fun x => (Json.float x).isPlain = true) plain zero (fun _ => isPlain_of_number) abscissa)
      (of_optional (P := fun x => (Json.float x).isPlain = true) plain zero (fun _ => isPlain_of_number) ordinate)
  | _ => cases reads

/-- The datum of a place that may be absent. -/
theorem isPlain_record? {m : Members} {position : Option Position} (plain : (Json.object m).isPlain = true)
    (reads : optional m "position" none (nullable ofRecord) = .value position) :
    (record? position).isPlain = true := by
  refine of_optional (P := fun position => (record? position).isPlain = true) plain rfl
    (fun datum plain reads => ?_) reads
  cases position with
  | none => rfl
  | some p => exact isPlain_of_ofRecord plain (reads_of_nullable reads p rfl)

end Position

namespace Task

/-- The data of a task that is written. -/
def Plain (task : Task) : Prop := ∀ pair ∈ task.members, pair.2.isPlain = true

theorem plain_of_triggerTask {m : Members} {task : Task} (plain : (Json.object m).isPlain = true)
    (reads : Node.triggerTask m = .value task) : task.Plain := by
  obtain ⟨_, config, first, configured, rfl⟩ := Reading.seq_eq_value reads
  obtain ⟨kind, -, rfl⟩ := Reading.map_eq_value first
  have data : (Json.object config).isPlain = true :=
    of_optional (P := fun config => (Json.object config).isPlain = true) plain rfl (fun _ => isPlain_of_members)
      configured
  simp [Plain, members, data]

theorem plain_of_actionTask {m : Members} {task : Task} (plain : (Json.object m).isPlain = true)
    (reads : Node.actionTask m = .value task) : task.Plain := by
  obtain ⟨_, timeout, fourth, limited, rfl⟩ := Reading.seq_eq_value reads
  obtain ⟨_, goesOn, third, -, rfl⟩ := Reading.seq_eq_value fourth
  obtain ⟨_, config, second, configured, rfl⟩ := Reading.seq_eq_value third
  obtain ⟨kind, -, rfl⟩ := Reading.map_eq_value second
  have data : (Json.object config).isPlain = true :=
    of_optional (P := fun config => (Json.object config).isPlain = true) plain rfl (fun _ => isPlain_of_members)
      configured
  have limit : ∀ x ∈ timeout, (Json.float x).isPlain = true :=
    of_optional (P := fun limit => ∀ x ∈ limit, (Json.float x).isPlain = true) plain (by simp)
      (fun _ plain reads x mem => isPlain_of_positive plain (reads_of_nullable reads x mem)) limited
  cases timeout with
  | none => simp [Plain, members, data]
  | some x => simp [Plain, members, data, limit x rfl]

theorem plain_of_read {m : Members} {task : Task} {kind : String} {read : Members → Reading Task}
    (plain : (Json.object m).isPlain = true) (reader : Node.taskReader? kind = some read)
    (reads : read m = .value task) : task.Plain := by
  unfold Node.taskReader? at reader
  split at reader
  · cases reader
    exact plain_of_triggerTask plain reads
  split at reader
  · cases reader
    exact plain_of_actionTask plain reads
  split at reader
  · cases reader
    obtain ⟨_, -, rfl⟩ := Reading.map_eq_value reads
    simp [Plain, members]
  split at reader
  · cases reader
    cases reads
    simp [Plain, members]
  · cases reader

end Task

/-- A node that has been read from plain data can be written as such. -/
theorem Node.isPlain_of_ofRecord {datum : Json} {node : Node} (plain : datum.isPlain = true)
    (reads : ofRecord datum = .value node) : node.toRecord.isPlain = true := by
  unfold ofRecord at reads
  split at reads
  · split at reads
    · cases reads
    · split at reads
      · obtain ⟨_, task, third, read, rfl⟩ := Reading.seq_eq_value (Reading.under_eq_value reads)
        obtain ⟨_, position, second, placed, rfl⟩ := Reading.seq_eq_value third
        obtain ⟨_, label, first, -, rfl⟩ := Reading.seq_eq_value second
        obtain ⟨id, -, rfl⟩ := Reading.map_eq_value first
        have data := Task.plain_of_read plain ‹_› read
        have place := Position.isPlain_record? plain placed
        rw [toRecord_eq]
        refine Json.isPlain_object.mpr ⟨nodup_members _, fun pair mem => ?_⟩
        rcases List.mem_append.mp mem with front | back
        · simp only [List.mem_cons, List.not_mem_nil, or_false] at front
          rcases front with rfl | rfl | rfl | rfl
          · rfl
          · rfl
          · exact place
          · rfl
        · exact data pair back
      · cases reads
    · cases reads
  · cases reads

theorem Edge.isPlain_toRecord (edge : Edge) : edge.toRecord.isPlain = true :=
  Json.isPlain_object.mpr ⟨show ["id", "source", "target", "branch"].Nodup by decide, by simp⟩

namespace Workflow

theorem isPlain_instantRecord (time : Option Instant) : (instantRecord time).isPlain = true := by cases time <;> rfl

/-- What a workflow has to be made of for its record to be plain. -/
structure Plain (w : Workflow) : Prop where
  version : (Json.int w.version).isPlain = true
  nodes : ∀ node ∈ w.nodes, node.toRecord.isPlain = true
  vars : (Json.object w.vars).isPlain = true
  executionCount : (Json.int w.executionCount).isPlain = true
  errorCount : (Json.int w.errorCount).isPlain = true

theorem isPlain_toRecord_iff {w : Workflow} : w.toRecord.isPlain = true ↔ w.Plain := by
  have nodup : (["id", "name", "description", "category", "template_id", "enabled", "version", "nodes", "edges",
    "variables", "execution_count", "error_count", "last_executed_at", "created_at", "updated_at"] :
      List String).Nodup := by decide
  have edges : (Json.list (w.edges.map Edge.toRecord)).isPlain = true := by
    simp [Json.isPlain_list, Edge.isPlain_toRecord]
  rw [toRecord, Json.isPlain_object]
  have written : (Json.list (w.nodes.map Node.toRecord)).isPlain = true ↔
      ∀ node ∈ w.nodes, node.toRecord.isPlain = true := by
    rw [Json.isPlain_list, List.forall_mem_map]
  simp only [List.forall_mem_cons, edges, Json.isPlain_text, Json.isPlain_bool, Json.isPlain_ofText?,
    isPlain_instantRecord, written]
  constructor
  · rintro ⟨-, -, -, -, -, -, -, version, nodes, -, vars, executions, errors, -⟩
    exact ⟨version, nodes, vars, executions, errors⟩
  · rintro ⟨version, nodes, vars, executions, errors⟩
    exact ⟨nodup, by simpa [version, vars, executions, errors] using nodes⟩

/-- A workflow that has been read from plain data can be written as such. -/
theorem isPlain_of_ofRecord {fresh : Fresh} {datum : Json} {w : Workflow} (plain : datum.isPlain = true)
    (reads : ofRecord fresh datum = .value w) : w.toRecord.isPlain = true := by
  cases datum with
  | object m =>
    obtain ⟨-, -, -, -, -, -, version, nodes, -, vars, executions, errors, -⟩ := ofRecord_eq_value_iff.mp reads
    have count {key : String} {fallback n : Int} (small : (Json.int fallback).isPlain = true)
        (read : optional m key fallback integer = .value n) : (Json.int n).isPlain = true :=
      of_optional (P := fun n => (Json.int n).isPlain = true) plain small (fun _ => isPlain_of_integer) read
    refine isPlain_toRecord_iff.mpr ⟨count rfl version, ?_, ?_, count rfl executions, count rfl errors⟩
    · exact of_optional (P := fun nodes => ∀ node ∈ nodes, (Node.toRecord node).isPlain = true) plain (by simp)
        (fun _ plain reads => of_items plain (fun _ _ => Node.isPlain_of_ofRecord) reads) nodes
    · exact of_optional (P := fun vars => (Json.object vars).isPlain = true) plain rfl
        (fun _ => isPlain_of_members) vars
  | _ => cases reads

end Workflow

end TriggerFlow
