import TriggerFlow.Graph.Check
import TriggerFlow.Proofs.Graph.Closing
import TriggerFlow.Proofs.Graph.Valid
import Mathlib.Data.List.Duplicate

/-!
# What is reported of a graph

Each check of a graph reports a defect where the graph has it, and only there. Nothing is assumed of the graph:
identifiers may repeat, edges may run in parallel, lead back to their source or lead nowhere, and there may be any
number of triggers. Nodes that share an identifier share the edges that leave it, each under the rule of its kind.
-/

namespace TriggerFlow.Graph

/-- A node that has to lead on along one edge. -/
def LeadsOn (node : Node) : Prop := (∃ t, node.task = .trigger t) ∨ ∃ a, node.task = .action a

def Decides (node : Node) : Prop := ∃ expression, node.task = .condition expression

/-- One edge of each outcome leaves an identifier. -/
def Branched (g : Graph) (id : String) : Prop :=
  ∀ branch, ∃ edge, ((g.outgoing id).filter fun edge => edge.branch = some branch) = [edge]

/-- The rule for the edges that leave a node, by its kind. -/
def Obeys (g : Graph) (node : Node) : Prop :=
  match node.task with
  | .condition _ => g.Branched node.id ∧ ∀ edge ∈ g.outgoing node.id, edge.branch ≠ none
  | .finish => g.outgoing node.id = []
  | .trigger _ | .action _ => ∃ edge, g.outgoing node.id = [edge] ∧ edge.branch = none

/-- The ways in which the edges that leave a node break the rule of its kind, and what is reported of each. -/
inductive Breach (g : Graph) (node : Node) : Defect → Prop
  | unbranched (kind : Decides node) (missing : ¬ g.Branched node.id) : Breach g node (.branchMissing node.id)
  | unlabelled (kind : Decides node) (edge : Edge) (leaves : edge ∈ g.outgoing node.id)
      (bare : edge.branch = none) : Breach g node (.branchUnlabelled node.id)
  | continued (kind : node.task = .finish) (leaves : g.outgoing node.id ≠ []) : Breach g node (.endContinued node.id)
  | dead (kind : LeadsOn node) (stops : g.outgoing node.id = []) : Breach g node (.deadEnd node.id)
  | several (kind : LeadsOn node) (more : 2 ≤ (g.outgoing node.id).length) :
      Breach g node (.severalOutgoing node.id (g.outgoing node.id).length)
  | labelled (kind : LeadsOn node) (edge : Edge) (leaves : edge ∈ g.outgoing node.id) (named : edge.branch ≠ none) :
      Breach g node (.labelledEdge edge.id node.id)

/-- What is found in a graph is what is wrong with it. -/
structure Exact (g : Graph) (found : List Defect) : Prop where
  duplicates : ∀ id count, .duplicateNode id count ∈ found ↔
    (g.nodes.map Node.id).Duplicate id ∧ count = (g.nodes.map Node.id).count id
  no_trigger : .triggerMissing ∈ found ↔ ∀ node ∈ g.nodes, ∀ t, node.task ≠ .trigger t
  several_triggers : (∃ ids, .severalTriggers ids ∈ found) ↔
    2 ≤ g.nodes.countP fun node => node.trigger?.isSome
  entered : ∀ id, .triggerEntered id ∈ found ↔
    ∃ node ∈ g.nodes, node.id = id ∧ (∃ t, node.task = .trigger t) ∧ ∃ edge ∈ g.edges, edge.target = id
  dangling : ∀ id, (∃ missing, .dangling id missing ∈ found) ↔
    ∃ edge ∈ g.edges, edge.id = id ∧ ¬ (g.hasNode edge.source ∧ g.hasNode edge.target)
  incomplete : ∀ id, .branchMissing id ∈ found ↔
    ∃ node ∈ g.nodes, node.id = id ∧ Decides node ∧ ¬ g.Branched id
  unlabelled : ∀ id, .branchUnlabelled id ∈ found ↔
    ∃ node ∈ g.nodes, node.id = id ∧ Decides node ∧ ∃ edge ∈ g.outgoing id, edge.branch = none
  continued : ∀ id, .endContinued id ∈ found ↔
    ∃ node ∈ g.nodes, node.id = id ∧ node.task = .finish ∧ g.outgoing id ≠ []
  dead_end : ∀ id, .deadEnd id ∈ found ↔
    ∃ node ∈ g.nodes, node.id = id ∧ LeadsOn node ∧ g.outgoing id = []
  several_outgoing : ∀ id count, .severalOutgoing id count ∈ found ↔
    ∃ node ∈ g.nodes, node.id = id ∧ LeadsOn node ∧ 2 ≤ count ∧ count = (g.outgoing id).length
  labelled : ∀ name id, .labelledEdge name id ∈ found ↔
    ∃ node ∈ g.nodes, node.id = id ∧ LeadsOn node ∧
      ∃ edge ∈ g.outgoing id, edge.id = name ∧ edge.branch ≠ none
  /-- Something is reported of the edges that leave a node where they break the rule of its kind. -/
  rule : ∀ node ∈ g.nodes, (∃ defect ∈ found, g.Breach node defect) ↔ ¬ g.Obeys node
  cyclic : (∃ source target, .cycle source target ∈ found) ↔ g.Cyclic
  /-- The edge that is reported belongs to a cycle. -/
  closing : ∀ source target, .cycle source target ∈ found →
    g.Joins source target ∧ Relation.ReflTransGen g.Joins target source
  unreachable : ∀ node t, g.triggers = [(node, t)] → ∀ id, .unreachable id ∈ found ↔
    g.hasNode id ∧ ¬ Relation.ReflTransGen g.Steps node.id id

variable {g : Graph} {d : Defect} {node : Node} {found : List Defect}

theorem count_id (id : String) :
    (g.nodes.map Node.id).count id = g.nodes.countP fun node => node.id = id := by
  rw [List.count, List.countP_map]
  rfl

theorem mem_duplicates_iff : d ∈ g.duplicates ↔
    ∃ id, (g.nodes.map Node.id).Duplicate id ∧ d = .duplicateNode id ((g.nodes.map Node.id).count id) := by
  rw [Graph.duplicates, List.mem_filterMap]
  constructor
  · rintro ⟨id, -, counted⟩
    simp only [Option.ite_none_right_eq_some, Option.some.injEq] at counted
    obtain ⟨more, rfl⟩ := counted
    refine ⟨id, ?_, by rw [count_id]⟩
    rw [List.duplicate_iff_two_le_count, count_id]
    exact more
  · rintro ⟨id, twice, rfl⟩
    have mem : id ∈ g.nodeIds := by
      rw [nodeIds, List.mem_eraseDups]
      exact twice.mem
    have more : 1 < g.nodes.countP fun node => node.id = id := by
      rw [← count_id]
      exact List.duplicate_iff_two_le_count.mp twice
    exact ⟨id, mem, by rw [count_id]; simp [more]⟩

theorem mem_triggers_iff {t : Trigger} : (node, t) ∈ g.triggers ↔ node ∈ g.nodes ∧ node.task = .trigger t := by
  have named : ∀ other : Node, other.trigger? = some t ↔ other.task = .trigger t := by
    intro other
    cases kind : other.task <;> simp [Node.trigger?, kind]
  rw [triggers, List.mem_filterMap]
  constructor
  · rintro ⟨other, mem, found⟩
    obtain ⟨task, kind, same⟩ := Option.map_eq_some_iff.mp found
    cases same
    exact ⟨mem, (named node).mp kind⟩
  · rintro ⟨mem, kind⟩
    exact ⟨node, mem, by rw [(named node).mpr kind]; rfl⟩

theorem length_triggers : g.triggers.length = g.nodes.countP fun node => node.trigger?.isSome := by
  rw [triggers, List.length_filterMap_eq_countP]
  congr 1
  funext node
  rw [Option.isSome_map]

theorem mem_triggerCount_iff : d ∈ g.triggerCount ↔
    (d = .triggerMissing ∧ g.triggers = []) ∨
      d = .severalTriggers (g.triggers.map fun t => t.1.id) ∧ 2 ≤ g.triggers.length := by
  rw [triggerCount]
  rcases g.triggers with _ | ⟨one, _ | ⟨two, others⟩⟩
  · simp
  · simp
  · simp

theorem mem_enteredTriggers_iff : d ∈ g.enteredTriggers ↔
    ∃ node ∈ g.nodes, (∃ t, node.task = .trigger t) ∧ (∃ edge ∈ g.edges, edge.target = node.id) ∧
      d = .triggerEntered node.id := by
  have entered : ∀ id, (g.incoming id).isEmpty = false ↔ ∃ edge ∈ g.edges, edge.target = id := by
    intro id
    simp [incoming]
  rw [enteredTriggers, List.mem_filterMap]
  constructor
  · rintro ⟨⟨node, t⟩, mem, reported⟩
    obtain ⟨mem, kind⟩ := mem_triggers_iff.mp mem
    cases empty : (g.incoming node.id).isEmpty with
    | true => simp [empty] at reported
    | false =>
      simp only [empty, Bool.false_eq_true, if_false, Option.some.injEq] at reported
      exact ⟨node, mem, ⟨t, kind⟩, (entered node.id).mp empty, reported.symm⟩
  · rintro ⟨node, mem, ⟨t, kind⟩, edge, rfl⟩
    have some_edge := (entered node.id).mpr edge
    exact ⟨(node, t), mem_triggers_iff.mpr ⟨mem, kind⟩, by simp [some_edge]⟩

theorem mem_danglingEdges_iff : d ∈ g.danglingEdges ↔
    ∃ edge ∈ g.edges, ¬ (g.hasNode edge.source ∧ g.hasNode edge.target) ∧
      d = .dangling edge.id ([edge.source, edge.target].filter fun id => !g.hasNode id) := by
  have present : ∀ edge : Edge, ([edge.source, edge.target].filter fun id => !g.hasNode id) = [] ↔
      g.hasNode edge.source ∧ g.hasNode edge.target := by
    intro edge
    simp
  rw [danglingEdges, List.mem_filterMap]
  constructor
  · rintro ⟨edge, mem, reported⟩
    split at reported
    · cases reported
    · rename_i missing
      exact ⟨edge, mem, fun both => missing ((present edge).mpr both), (Option.some.inj reported).symm⟩
  · rintro ⟨edge, mem, absent, rfl⟩
    refine ⟨edge, mem, ?_⟩
    split
    · rename_i none_missing
      exact absurd ((present edge).mp none_missing) absent
    · rfl

theorem branched_iff {id : String} : g.Branched id ↔
    ((g.outgoing id).countP fun edge => edge.branch = some .yes) = 1 ∧
      ((g.outgoing id).countP fun edge => edge.branch = some .no) = 1 := by
  have once : ∀ branch, ((g.outgoing id).countP fun edge => edge.branch = some branch) = 1 ↔
      ∃ edge, ((g.outgoing id).filter fun edge => edge.branch = some branch) = [edge] := by
    intro branch
    rw [List.countP_eq_length_filter, List.length_eq_one_iff]
  rw [once, once]
  constructor
  · intro branched
    exact ⟨branched .yes, branched .no⟩
  · rintro ⟨yes, no⟩ branch
    cases branch with
    | yes => exact yes
    | no => exact no

/-- What is reported of the edges that leave a condition. -/
theorem mem_outgoingOf_condition {expression : String} (kind : node.task = .condition expression) :
    d ∈ g.outgoingOf node ↔ (d = .branchMissing node.id ∧ ¬ g.Branched node.id) ∨
      d = .branchUnlabelled node.id ∧ ∃ edge ∈ g.outgoing node.id, edge.branch = none := by
  have bare : ((g.outgoing node.id).countP fun edge => edge.branch = none) = 0 ↔
      ¬ ∃ edge ∈ g.outgoing node.id, edge.branch = none := by
    rw [List.countP_eq_zero]
    simp
  have missing : ∀ rule : Prop, ∀ [Decidable rule], ∀ defect : Defect,
      d ∈ (if rule then [] else [defect]) ↔ d = defect ∧ ¬ rule := by
    intro rule _ defect
    by_cases holds : rule <;> simp [holds]
  rw [outgoingOf, kind, branched_iff]
  simp only [List.mem_append, missing, bare, not_not]

/-- What is reported of how many edges leave a node that has to lead on. -/
theorem mem_counted_iff {id : String} (leaving : List Edge) :
    d ∈ (match leaving with
      | [] => [Defect.deadEnd id]
      | [_] => []
      | several => [Defect.severalOutgoing id several.length]) ↔
      (d = .deadEnd id ∧ leaving = []) ∨ d = .severalOutgoing id leaving.length ∧ 2 ≤ leaving.length := by
  rcases leaving with _ | ⟨one, _ | ⟨two, others⟩⟩
  · simp
  · simp
  · simp

/-- What is reported of the edges that leave a node that has to lead on. -/
theorem mem_outgoingOf_leadsOn (kind : LeadsOn node) :
    d ∈ g.outgoingOf node ↔ (d = .deadEnd node.id ∧ g.outgoing node.id = []) ∨
      (d = .severalOutgoing node.id (g.outgoing node.id).length ∧ 2 ≤ (g.outgoing node.id).length) ∨
      ∃ edge ∈ g.outgoing node.id, edge.branch ≠ none ∧ d = .labelledEdge edge.id node.id := by
  have named : (d ∈ (g.outgoing node.id).filterMap fun edge =>
      edge.branch.map fun _ => Defect.labelledEdge edge.id node.id) ↔
      ∃ edge ∈ g.outgoing node.id, edge.branch ≠ none ∧ d = .labelledEdge edge.id node.id := by
    rw [List.mem_filterMap]
    constructor
    · rintro ⟨edge, leaves, reported⟩
      obtain ⟨branch, label, same⟩ := Option.map_eq_some_iff.mp reported
      exact ⟨edge, leaves, by simp [label], same.symm⟩
    · rintro ⟨edge, leaves, label, rfl⟩
      obtain ⟨branch, label⟩ := Option.ne_none_iff_exists'.mp label
      exact ⟨edge, leaves, by rw [label]; rfl⟩
  rw [← or_assoc, ← mem_counted_iff, ← named, ← List.mem_append]
  rcases kind with ⟨t, kind⟩ | ⟨a, kind⟩
  · rewrite [outgoingOf, kind]
    exact Iff.rfl
  · rewrite [outgoingOf, kind]
    exact Iff.rfl

theorem mem_outgoingOf_finish (kind : node.task = .finish) :
    d ∈ g.outgoingOf node ↔ d = .endContinued node.id ∧ g.outgoing node.id ≠ [] := by
  rw [outgoingOf, kind]
  cases leaves : g.outgoing node.id with
  | nil => simp
  | cons edge others => simp

/-- Every node is of one kind, as far as the rules for its edges go. -/
theorem kinds (node : Node) : Decides node ∨ node.task = .finish ∨ LeadsOn node := by
  cases kind : node.task with
  | trigger t => exact .inr (.inr (.inl ⟨t, kind⟩))
  | action a => exact .inr (.inr (.inr ⟨a, kind⟩))
  | condition expression => exact .inl ⟨expression, kind⟩
  | finish => exact .inr (.inl rfl)

/-- The breaches of the rule of a node's kind are what is reported of its edges. -/
theorem mem_outgoingOf_iff : d ∈ g.outgoingOf node ↔ g.Breach node d := by
  constructor
  · intro reported
    rcases kinds node with ⟨expression, kind⟩ | kind | kind
    · rcases (mem_outgoingOf_condition kind).mp reported with ⟨rfl, missing⟩ | ⟨rfl, edge, leaves, bare⟩
      · exact .unbranched ⟨expression, kind⟩ missing
      · exact .unlabelled ⟨expression, kind⟩ edge leaves bare
    · obtain ⟨rfl, leaves⟩ := (mem_outgoingOf_finish kind).mp reported
      exact .continued kind leaves
    · rcases (mem_outgoingOf_leadsOn kind).mp reported with ⟨rfl, stops⟩ | ⟨rfl, more⟩ |
        ⟨edge, leaves, named, rfl⟩
      · exact .dead kind stops
      · exact .several kind more
      · exact .labelled kind edge leaves named
  · intro breach
    cases breach with
    | unbranched kind missing =>
      obtain ⟨expression, kind⟩ := kind
      exact (mem_outgoingOf_condition kind).mpr (.inl ⟨rfl, missing⟩)
    | unlabelled kind edge leaves bare =>
      obtain ⟨expression, kind⟩ := kind
      exact (mem_outgoingOf_condition kind).mpr (.inr ⟨rfl, edge, leaves, bare⟩)
    | continued kind leaves => exact (mem_outgoingOf_finish kind).mpr ⟨rfl, leaves⟩
    | dead kind stops => exact (mem_outgoingOf_leadsOn kind).mpr (.inl ⟨rfl, stops⟩)
    | several kind more => exact (mem_outgoingOf_leadsOn kind).mpr (.inr (.inl ⟨rfl, more⟩))
    | labelled kind edge leaves named =>
      exact (mem_outgoingOf_leadsOn kind).mpr (.inr (.inr ⟨edge, leaves, named, rfl⟩))

theorem obeys_of_decides (kind : Decides node) : g.Obeys node ↔
    g.Branched node.id ∧ ∀ edge ∈ g.outgoing node.id, edge.branch ≠ none := by
  obtain ⟨expression, kind⟩ := kind
  simp only [Obeys, kind]

theorem obeys_of_finish (kind : node.task = .finish) : g.Obeys node ↔ g.outgoing node.id = [] := by
  simp only [Obeys, kind]

theorem obeys_of_leadsOn (kind : LeadsOn node) : g.Obeys node ↔
    ∃ edge, g.outgoing node.id = [edge] ∧ edge.branch = none := by
  rcases kind with ⟨t, kind⟩ | ⟨a, kind⟩
  · simp only [Obeys, kind]
  · simp only [Obeys, kind]

/-- The edges that leave a node break the rule of its kind in one of the ways that are reported. -/
theorem exists_breach_iff : (∃ defect, g.Breach node defect) ↔ ¬ g.Obeys node := by
  constructor
  · rintro ⟨defect, breach⟩ obeys
    cases breach with
    | unbranched kind missing => exact missing ((obeys_of_decides kind).mp obeys).1
    | unlabelled kind edge leaves bare => exact ((obeys_of_decides kind).mp obeys).2 edge leaves bare
    | continued kind leaves => exact leaves ((obeys_of_finish kind).mp obeys)
    | dead kind stops =>
      obtain ⟨edge, one, -⟩ := (obeys_of_leadsOn kind).mp obeys
      rw [one] at stops
      cases stops
    | several kind more =>
      obtain ⟨edge, one, -⟩ := (obeys_of_leadsOn kind).mp obeys
      rw [one, List.length_singleton] at more
      omega
    | labelled kind edge leaves named =>
      obtain ⟨other, one, bare⟩ := (obeys_of_leadsOn kind).mp obeys
      rw [one] at leaves
      rw [List.mem_singleton.mp leaves] at named
      exact named bare
  · intro breaks
    rcases kinds node with kind | kind | kind
    · rw [obeys_of_decides kind] at breaks
      by_cases branched : g.Branched node.id
      · have bare : ∃ edge ∈ g.outgoing node.id, edge.branch = none := by
          by_contra labelled
          exact breaks ⟨branched, fun edge leaves none => labelled ⟨edge, leaves, none⟩⟩
        obtain ⟨edge, leaves, bare⟩ := bare
        exact ⟨_, .unlabelled kind edge leaves bare⟩
      · exact ⟨_, .unbranched kind branched⟩
    · rw [obeys_of_finish kind] at breaks
      exact ⟨_, .continued kind breaks⟩
    · rw [obeys_of_leadsOn kind] at breaks
      rcases leaves : g.outgoing node.id with _ | ⟨one, _ | ⟨two, others⟩⟩
      · exact ⟨_, .dead kind leaves⟩
      · have named : one.branch ≠ none := fun bare => breaks ⟨one, leaves, bare⟩
        exact ⟨_, .labelled kind one (by simp [leaves]) named⟩
      · exact ⟨_, .several kind (by simp [leaves])⟩

theorem mem_cycles_iff : d ∈ g.cycles ↔
    ∃ source target, g.closingEdge? = some (source, target) ∧ d = .cycle source target := by
  rw [cycles]
  rcases g.closingEdge? with _ | ⟨source, target⟩
  · simp
  · simp

theorem mem_unreachableNodes_iff : d ∈ g.unreachableNodes ↔
    ∃ trigger t, g.triggers = [(trigger, t)] ∧ ∃ node ∈ g.nodes,
      ¬ Relation.ReflTransGen g.Steps trigger.id node.id ∧ d = .unreachable node.id := by
  rw [unreachableNodes, trigger?]
  rcases g.triggers with _ | ⟨⟨trigger, t⟩, _ | ⟨two, others⟩⟩
  · simp
  · simp only [List.mem_filterMap, List.contains_iff_mem, mem_reached_iff, Option.ite_none_left_eq_some,
      Option.some.injEq, List.cons.injEq, Prod.mk.injEq, and_true]
    constructor
    · rintro ⟨node, mem, beyond, rfl⟩
      exact ⟨trigger, t, ⟨rfl, rfl⟩, node, mem, beyond, rfl⟩
    · rintro ⟨_, _, ⟨rfl, rfl⟩, node, mem, beyond, rfl⟩
      exact ⟨node, mem, beyond, rfl⟩
  · simp

/-- The settings of nodes have defects of their own, and are not asked for any other. -/
theorem mem_misconfigured {nodes : List Node} (checked : misconfigured nodes = .ok found) (mem : d ∈ found) :
    ∃ id fault, d = .misconfigured id fault := by
  induction nodes generalizing found with
  | nil =>
    cases checked
    cases mem
  | cons node rest ih =>
    rw [misconfigured] at checked
    split at checked
    · exact ih checked mem
    · cases checked
    · cases others : misconfigured rest with
      | error fault => rw [others] at checked; cases checked
      | ok more =>
        rw [others] at checked
        cases checked
        rcases List.mem_cons.mp mem with rfl | mem
        · exact ⟨_, _, rfl⟩
        · exact ih others mem

/-- Defects that are not about settings come from the other checks. -/
theorem mem_found_iff (returns : g.defects = .ok found) (structural : ∀ id fault, d ≠ .misconfigured id fault) :
    d ∈ found ↔ d ∈ g.duplicates ∨ d ∈ g.triggerCount ∨ d ∈ g.enteredTriggers ∨ d ∈ g.danglingEdges ∨
      (∃ node ∈ g.nodes, g.Breach node d) ∨ d ∈ g.cycles ∨ d ∈ g.unreachableNodes := by
  rw [defects] at returns
  cases checked : misconfigured g.nodes with
  | error fault => rw [checked] at returns; cases returns
  | ok more =>
    rw [checked] at returns
    have all : g.structural ++ more = found := Except.ok.inj returns
    have other : d ∉ more := by
      intro mem
      obtain ⟨id, fault, same⟩ := mem_misconfigured checked mem
      exact structural id fault same
    rw [← all, List.mem_append, or_iff_left other, Graph.structural]
    simp only [List.mem_append, List.mem_flatMap, mem_outgoingOf_iff, or_assoc]

/-- What is wrong where a breach is reported. -/
theorem breach_iff : g.Breach node d ↔
    match d with
    | .branchMissing id => node.id = id ∧ Decides node ∧ ¬ g.Branched id
    | .branchUnlabelled id => node.id = id ∧ Decides node ∧ ∃ edge ∈ g.outgoing id, edge.branch = none
    | .endContinued id => node.id = id ∧ node.task = .finish ∧ g.outgoing id ≠ []
    | .deadEnd id => node.id = id ∧ LeadsOn node ∧ g.outgoing id = []
    | .severalOutgoing id count =>
      node.id = id ∧ LeadsOn node ∧ 2 ≤ count ∧ count = (g.outgoing id).length
    | .labelledEdge name id =>
      node.id = id ∧ LeadsOn node ∧ ∃ edge ∈ g.outgoing id, edge.id = name ∧ edge.branch ≠ none
    | _ => False := by
  constructor
  · intro breach
    cases breach with
    | unbranched kind missing => exact ⟨rfl, kind, missing⟩
    | unlabelled kind edge leaves bare => exact ⟨rfl, kind, edge, leaves, bare⟩
    | continued kind leaves => exact ⟨rfl, kind, leaves⟩
    | dead kind stops => exact ⟨rfl, kind, stops⟩
    | several kind more => exact ⟨rfl, kind, more, rfl⟩
    | labelled kind edge leaves named => exact ⟨rfl, kind, edge, leaves, rfl, named⟩
  · intro wrong
    split at wrong
    · obtain ⟨rfl, kind, missing⟩ := wrong
      exact .unbranched kind missing
    · obtain ⟨rfl, kind, edge, leaves, bare⟩ := wrong
      exact .unlabelled kind edge leaves bare
    · obtain ⟨rfl, kind, leaves⟩ := wrong
      exact .continued kind leaves
    · obtain ⟨rfl, kind, stops⟩ := wrong
      exact .dead kind stops
    · obtain ⟨rfl, kind, more, rfl⟩ := wrong
      exact .several kind more
    · obtain ⟨rfl, kind, edge, leaves, rfl, named⟩ := wrong
      exact .labelled kind edge leaves named
    · exact wrong.elim

/-- Something is reported of the edges that leave a node where they break the rule of its kind. -/
theorem rule_of_breaches (node : Node) (here : node ∈ g.nodes)
    (reported : ∀ defect node, node ∈ g.nodes → g.Breach node defect → defect ∈ found) :
    (∃ defect ∈ found, g.Breach node defect) ↔ ¬ g.Obeys node := by
  rw [← exists_breach_iff]
  constructor
  · rintro ⟨defect, -, breach⟩
    exact ⟨defect, breach⟩
  · rintro ⟨defect, breach⟩
    exact ⟨defect, reported defect node here breach, breach⟩

/-- The checks of a graph report what is wrong with it, and nothing else. -/
theorem defects_exact (returns : g.defects = .ok found) : g.Exact found := by
  have breached : ∀ d node, node ∈ g.nodes → g.Breach node d → d ∈ found := by
    intro d node here breach
    have structural : ∀ id fault, d ≠ .misconfigured id fault := by
      cases breach <;> simp
    exact (mem_found_iff returns structural).mpr (.inr (.inr (.inr (.inr (.inl ⟨node, here, breach⟩)))))
  have mem : ∀ d : Defect, (∀ id fault, d ≠ .misconfigured id fault) → (d ∈ found ↔ _) :=
    fun d structural => mem_found_iff returns structural
  simp only [mem_duplicates_iff, mem_triggerCount_iff, mem_enteredTriggers_iff, mem_danglingEdges_iff,
    mem_cycles_iff, mem_unreachableNodes_iff, breach_iff] at mem
  have closing : ∀ source target, .cycle source target ∈ found ↔ g.closingEdge? = some (source, target) := by
    simp [mem]
  constructor
  case duplicates => simp [mem]
  case incomplete => simp [mem]
  case unlabelled => simp [mem]
  case continued => simp [mem]
  case dead_end => simp [mem]
  case several_outgoing => simp [mem]
  case labelled => simp [mem]
  case no_trigger =>
    have reported : .triggerMissing ∈ found ↔ g.triggers = [] := by simp [mem]
    rw [reported, List.eq_nil_iff_forall_not_mem]
    constructor
    · intro none node here t kind
      exact none (node, t) (mem_triggers_iff.mpr ⟨here, kind⟩)
    · rintro none ⟨node, t⟩ here
      obtain ⟨here, kind⟩ := mem_triggers_iff.mp here
      exact none node here t kind
  case several_triggers =>
    rw [← length_triggers]
    simp [mem]
  case entered =>
    intro id
    have reported : .triggerEntered id ∈ found ↔ ∃ node ∈ g.nodes, (∃ t, node.task = .trigger t) ∧
        (∃ edge ∈ g.edges, edge.target = node.id) ∧ id = node.id := by simp [mem]
    rw [reported]
    constructor
    · rintro ⟨node, here, kind, enters, rfl⟩
      exact ⟨node, here, rfl, kind, enters⟩
    · rintro ⟨node, here, rfl, kind, enters⟩
      exact ⟨node, here, kind, enters, rfl⟩
  case dangling =>
    intro id
    have reported : (∃ missing, .dangling id missing ∈ found) ↔
        ∃ edge ∈ g.edges, ¬ (g.hasNode edge.source ∧ g.hasNode edge.target) ∧ id = edge.id := by simp [mem]
    rw [reported]
    constructor
    · rintro ⟨edge, here, absent, rfl⟩
      exact ⟨edge, here, rfl, absent⟩
    · rintro ⟨edge, here, rfl, absent⟩
      exact ⟨edge, here, absent, rfl⟩
  case rule => exact fun node here => rule_of_breaches node here breached
  case cyclic =>
    rw [← exists_closingEdge_iff]
    simp only [closing]
  case closing =>
    intro source target reported
    exact closingEdge?_sound ((closing source target).mp reported)
  case unreachable =>
    intro trigger t one id
    have reported : .unreachable id ∈ found ↔
        ∃ node ∈ g.nodes, ¬ Relation.ReflTransGen g.Steps trigger.id node.id ∧ id = node.id := by simp [mem, one]
    have named : g.hasNode id ↔ ∃ node ∈ g.nodes, node.id = id := by simp [hasNode]
    rw [reported, named]
    constructor
    · rintro ⟨node, here, beyond, rfl⟩
      exact ⟨⟨node, here, rfl⟩, beyond⟩
    · rintro ⟨⟨node, here, rfl⟩, beyond⟩
      exact ⟨node, here, beyond, rfl⟩

/-- A graph with a shared identifier, an edge from a node to itself, an edge to no node and a condition that
nothing leaves. -/
def tangled : Graph :=
  ⟨[⟨"a", "", none, .trigger ⟨.manual, []⟩⟩, ⟨"a", "", none, .finish⟩,
    ⟨"b", "", none, .action ⟨.sendEmail, [], false, none⟩⟩, ⟨"c", "", none, .condition "1"⟩],
   [⟨"1", "a", "b", none⟩, ⟨"2", "a", "ghost", some .yes⟩, ⟨"3", "b", "b", none⟩, ⟨"4", "b", "a", none⟩], 1⟩

def tangledDefects : List Defect :=
  [.duplicateNode "a" 2, .triggerEntered "a", .dangling "2" ["ghost"], .severalOutgoing "a" 2, .labelledEdge "2" "a",
    .endContinued "a", .severalOutgoing "b" 2, .branchMissing "c", .cycle "b" "b", .unreachable "c"]

theorem tangled_defects : tangled.defects = .ok tangledDefects := by
  have cycles : tangled.cycles = [.cycle "b" "b"] := by
    rw [Graph.cycles, closingEdge?_of_sorted (by decide +kernel)]
    decide +kernel
  rw [defects, Graph.structural, cycles]
  decide +kernel

theorem tangled_exact : tangled.defects = .ok tangledDefects ∧ tangled.Exact tangledDefects :=
  ⟨tangled_defects, defects_exact tangled_defects⟩

end TriggerFlow.Graph
