import TriggerFlow.Graph.Record
import TriggerFlow.Proofs.Ordered
import TriggerFlow.Proofs.Record.Reading

/-!
# Graphs that records can have

Of what a graph is made of, records leave nothing out, and they can have all of it but for one thing: the limit of an
action, where there is one, lies above zero. The record of such a graph reads back as the graph, and nothing else can be
read from any record.
-/

namespace TriggerFlow

open Record
open Reading (map_of_value seq_of_value under_of_value)

theorem TriggerKind.named?_name (kind : TriggerKind) : named? kind.name = some kind := by cases kind <;> decide

theorem ActionKind.named?_name (kind : ActionKind) : named? kind.name = some kind := by cases kind <;> decide

theorem Branch.named?_name (branch : Branch) : named? branch.name = some branch := by cases branch <;> decide

/-- The limit of an action, where there is one, lies above zero. -/
def Action.Accepted (a : Action) : Prop := ∀ x ∈ a.timeout, x.compare? (.zero false) = some .gt

namespace Position

theorem ofRecord_toRecord (p : Position) : ofRecord p.toRecord = .value p :=
  seq_of_value (map_of_value _ (optional_of_get? _ rfl (number_float p.x))) (optional_of_get? _ rfl (number_float p.y))

/-- The datum of a position that may be absent. -/
def record? : Option Position → Json
  | some p => p.toRecord
  | none => .null

theorem nullable_record? (position : Option Position) :
    nullable ofRecord (record? position) = .value position := by
  cases position with
  | none => rfl
  | some p => exact nullable_of_ne_null (by simp [toRecord, record?]) p.ofRecord_toRecord

end Position

namespace Task

/-- Records can have the task. -/
def Accepted (task : Task) : Prop := ∀ a, task = .action a → a.Accepted

/-- The members of a task in the record of its node. -/
def members : Task → Members
  | .trigger t => [("trigger_type", .text t.kind.name), ("config", .object t.config)]
  | .action a =>
    [("action_type", .text a.kind.name), ("config", .object a.config),
      ("continue_on_error", .bool a.continueOnError),
      ("timeout_seconds", match a.timeout with
        | some x => .float x
        | none => .null)]
  | .condition expression => [("expression", .text expression)]
  | .finish => []

/-- A limit above zero reads back. -/
theorem nullable_timeout {a : Action} (accepted : a.Accepted) :
    nullable positive (match a.timeout with
      | some x => .float x
      | none => .null) = .value a.timeout := by
  cases limit : a.timeout with
  | none => rfl
  | some x =>
    refine nullable_of_ne_null (by simp) ?_
    simp [positive, number, accepted x limit]

/-- A task reads back from any record in which its members are found. -/
theorem read_of_get? {task : Task} (accepted : task.Accepted) {m : Members}
    (found : ∀ pair ∈ task.members, m.get? pair.1 = some pair.2) :
    ∃ read, Node.taskReader? task.kindName = some read ∧ read m = .value task := by
  cases task with
  | trigger t =>
    simp only [members, List.forall_mem_cons] at found
    refine ⟨Node.triggerTask, rfl, ?_⟩
    exact seq_of_value (map_of_value _ (optional_of_get? _ found.1 (choice_name t.kind.named?_name)))
      (optional_of_get? _ found.2.1 (members_object _))
  | action a =>
    simp only [members, List.forall_mem_cons] at found
    obtain ⟨kind, config, goesOn, timeout, -⟩ := found
    refine ⟨Node.actionTask, rfl, ?_⟩
    exact seq_of_value (seq_of_value (seq_of_value
      (map_of_value _ (required_of_get? kind (choice_name a.kind.named?_name)))
      (optional_of_get? _ config (members_object _))) (optional_of_get? _ goesOn (truth_bool _)))
      (optional_of_get? _ timeout (nullable_timeout (accepted a rfl)))
  | condition expression =>
    simp only [members, List.forall_mem_cons] at found
    refine ⟨Node.conditionTask, rfl, ?_⟩
    exact map_of_value _ (required_of_get? found.1 (text_text _))
  | finish => exact ⟨_, rfl, rfl⟩

theorem accepted_of_actionTask {m : Members} {task : Task} (reads : Node.actionTask m = .value task) :
    task.Accepted := by
  obtain ⟨_, timeout, fourth, limited, rfl⟩ := Reading.seq_eq_value reads
  obtain ⟨_, goesOn, third, -, rfl⟩ := Reading.seq_eq_value fourth
  obtain ⟨_, config, second, -, rfl⟩ := Reading.seq_eq_value third
  obtain ⟨kind, -, rfl⟩ := Reading.map_eq_value second
  rintro a ⟨⟩ x present
  rcases get?_of_optional limited with ⟨datum, -, read⟩ | ⟨-, rfl⟩
  · have above := reads_of_nullable read x present
    unfold positive at above
    split at above
    · split at above
      · cases above
        assumption
      · cases above
    · rename_i never
      exact absurd above (never x)
  · cases present

/-- Whatever has been read as a task is one that records can have. -/
theorem accepted_of_read {m : Members} {task : Task} {kind : String} {read : Members → Reading Task}
    (reader : Node.taskReader? kind = some read) (reads : read m = .value task) : task.Accepted := by
  unfold Node.taskReader? at reader
  split at reader
  · cases reader
    obtain ⟨_, config, first, -, rfl⟩ := Reading.seq_eq_value reads
    obtain ⟨_, -, rfl⟩ := Reading.map_eq_value first
    rintro _ ⟨⟩
  split at reader
  · cases reader
    exact accepted_of_actionTask reads
  split at reader
  · cases reader
    obtain ⟨_, -, rfl⟩ := Reading.map_eq_value reads
    rintro _ ⟨⟩
  split at reader
  · cases reader
    cases reads
    rintro _ ⟨⟩
  · cases reader

end Task

namespace Node

/-- A node reads back from any record in which its members are found. -/
theorem ofRecord_of_get? {node : Node} (accepted : node.task.Accepted) {m : Members}
    (kind : m.get? "kind" = some (.text node.task.kindName)) (id : m.get? "id" = some (.text node.id))
    (label : m.get? "label" = some (.text node.label))
    (position : m.get? "position" = some (Position.record? node.position))
    (task : ∀ pair ∈ node.task.members, m.get? pair.1 = some pair.2) : ofRecord (.object m) = .value node := by
  obtain ⟨read, reader, reads⟩ := Task.read_of_get? accepted task
  simp only [ofRecord, kind, reader]
  exact under_of_value _ (seq_of_value (seq_of_value (seq_of_value
    (map_of_value _ (required_of_get? id (text_text _))) (optional_of_get? _ label (text_text _)))
    (optional_of_get? _ position (Position.nullable_record? node.position))) reads)

/-- The members of the record of a node. -/
def members (node : Node) : Members :=
  [("id", .text node.id), ("label", .text node.label), ("position", Position.record? node.position),
    ("kind", .text node.task.kindName)] ++ node.task.members

theorem toRecord_eq (node : Node) : node.toRecord = .object node.members := by
  obtain ⟨id, label, position, task⟩ := node
  cases position <;> cases task <;> rfl

theorem nodup_members (node : Node) : node.members.keys.Nodup := by
  obtain ⟨id, label, position, task⟩ := node
  cases task <;> simp [members, Ordered.keys, Task.members]

/-- A node reads back from its members, in whatever order they come. -/
theorem ofRecord_of_perm {node : Node} (accepted : node.task.Accepted) {m : Members} (same : m.Perm node.members) :
    ofRecord (.object m) = .value node := by
  have found {key : String} {datum : Json} (mem : (key, datum) ∈ node.members) : m.get? key = some datum :=
    Ordered.get?_of_mem ((same.map Prod.fst).nodup_iff.mpr node.nodup_members) (same.mem_iff.mpr mem)
  refine ofRecord_of_get? accepted (found ?_) (found ?_) (found ?_) (found ?_) fun pair mem =>
    found (List.mem_append_right _ mem)
  all_goals simp [members]

/-- The record of a node reads back. -/
theorem ofRecord_toRecord {node : Node} (accepted : node.task.Accepted) : ofRecord node.toRecord = .value node := by
  rw [toRecord_eq]
  exact ofRecord_of_perm accepted (.refl _)

theorem accepted_of_ofRecord {datum : Json} {node : Node} (reads : ofRecord datum = .value node) :
    node.task.Accepted := by
  unfold ofRecord at reads
  split at reads
  · split at reads
    · cases reads
    · split at reads
      · obtain ⟨_, task, third, read, rfl⟩ := Reading.seq_eq_value (Reading.under_eq_value reads)
        obtain ⟨_, position, second, -, rfl⟩ := Reading.seq_eq_value third
        obtain ⟨_, label, first, -, rfl⟩ := Reading.seq_eq_value second
        obtain ⟨id, -, rfl⟩ := Reading.map_eq_value first
        exact Task.accepted_of_read ‹_› read
      · cases reads
    · cases reads
  · cases reads

end Node

theorem Edge.ofRecord_toRecord (edge : Edge) : ofRecord edge.toRecord = .value edge := by
  obtain ⟨id, source, target, _ | _ | _⟩ := edge <;> rfl

namespace Graph

/-- Records can have the graph. -/
def Accepted (g : Graph) : Prop := ∀ node ∈ g.nodes, node.task.Accepted

theorem items_nodes {nodes : List Node} (accepted : ∀ node ∈ nodes, node.task.Accepted) :
    items Node.ofRecord (.list (nodes.map Node.toRecord)) = .value nodes := by
  have reads := items_map fun node mem => Node.ofRecord_toRecord (accepted node mem)
  rwa [List.map_id'] at reads

theorem items_edges (edges : List Edge) : items Edge.ofRecord (.list (edges.map Edge.toRecord)) = .value edges := by
  have reads := items_map fun edge (_ : edge ∈ edges) => edge.ofRecord_toRecord
  rwa [List.map_id'] at reads

/-- The record of a graph reads back. -/
theorem ofRecord_toRecord {g : Graph} (accepted : g.Accepted) : ofRecord g.toRecord = .value g :=
  seq_of_value (seq_of_value (map_of_value _ (optional_of_get? _ rfl (items_nodes accepted)))
    (optional_of_get? _ rfl (items_edges g.edges))) (optional_of_get? _ rfl (integer_int g.version))

theorem accepted_of_nodes {m : Members} {nodes : List Node}
    (reads : optional m "nodes" [] (items Node.ofRecord) = .value nodes) : ∀ node ∈ nodes, node.task.Accepted := by
  rcases get?_of_optional reads with ⟨datum, -, read⟩ | ⟨-, rfl⟩
  · intro node mem
    obtain ⟨datum, read⟩ := reads_of_items read node mem
    exact Node.accepted_of_ofRecord read
  · simp

/-- The graphs that records can have are those that can be read from records. -/
theorem accepted_iff {g : Graph} : g.Accepted ↔ ∃ datum, ofRecord datum = .value g := by
  constructor
  · exact fun accepted => ⟨_, ofRecord_toRecord accepted⟩
  · rintro ⟨datum, reads⟩
    cases datum with
    | object m =>
      obtain ⟨_, version, second, -, rfl⟩ := Reading.seq_eq_value reads
      obtain ⟨_, edges, first, -, rfl⟩ := Reading.seq_eq_value second
      obtain ⟨nodes, read, rfl⟩ := Reading.map_eq_value first
      exact accepted_of_nodes read
    | _ => cases reads

end Graph

end TriggerFlow
