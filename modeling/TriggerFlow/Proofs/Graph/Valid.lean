import TriggerFlow.Graph.Check
import TriggerFlow.Proofs.Graph.Cycle
import Mathlib.Data.List.Nodup

/-!
# What a graph without defects looks like

Each check of a graph answers for one property, and a graph without defects has all of them. A run needs
no more than these: its nodes have names of their own, it is entered in one place, every node leads on as
its kind demands, and every edge leads to a lower rank.
-/

namespace TriggerFlow.Graph

/-- The node that a run of the graph comes to first. -/
def Entrance (g : Graph) (id : String) : Prop :=
  ∃ node t edge, g.trigger? = some (node, t) ∧ g.outgoing node.id = [edge] ∧ edge.target = id

/-- A way of ranking the nodes so that every edge leads down. -/
structure Ranking (g : Graph) (rank : String → Nat) : Prop where
  bound : ∀ id, rank id ≤ g.nodes.length
  down : ∀ edge ∈ g.edges, rank edge.target < rank edge.source

/-- The properties that the structural checks of a graph stand for. -/
structure Valid (g : Graph) : Prop where
  ids_nodup : (g.nodes.map Node.id).Nodup
  one_trigger : ∃ node t, g.triggers = [(node, t)]
  not_entered : ∀ node t, (node, t) ∈ g.triggers → g.incoming node.id = []
  closed : ∀ edge ∈ g.edges, g.hasNode edge.source ∧ g.hasNode edge.target
  trigger_leads : ∀ node ∈ g.nodes, ∀ t, node.task = .trigger t → ∃ edge, g.outgoing node.id = [edge]
  action_leads : ∀ node ∈ g.nodes, ∀ a, node.task = .action a → ∃ edge, g.outgoing node.id = [edge]
  condition_leads : ∀ node ∈ g.nodes, ∀ expression, node.task = .condition expression → ∀ branch,
    ∃ edge, ((g.outgoing node.id).filter fun edge => edge.branch = some branch) = [edge]
  ranked : ∃ rank, Ranking g rank

variable {g : Graph}

theorem structural_eq_nil (h : g.defects = .ok []) : g.structural = [] := by
  rw [defects] at h
  cases settings : misconfigured g.nodes with
  | error fault => rw [settings] at h; cases h
  | ok found =>
    rw [settings] at h
    exact (List.append_eq_nil_iff.mp (Except.ok.inj h)).1

/-- Identifiers that are counted once each are all different. -/
theorem ids_nodup_of_duplicates (h : g.duplicates = []) : (g.nodes.map Node.id).Nodup := by
  rw [List.nodup_iff_count_le_one]
  intro id
  by_cases mem : id ∈ g.nodes.map Node.id
  · have once := List.filterMap_eq_nil_iff.mp h id (by simpa [nodeIds, List.mem_eraseDups] using mem)
    have count : (g.nodes.map Node.id).count id = g.nodes.countP fun node => node.id = id := by
      rw [List.count, List.countP_map]
      rfl
    by_contra more
    rw [count, Nat.not_le] at more
    simp [more] at once
  · simp [List.count_eq_zero_of_not_mem mem]

theorem one_trigger_of_triggerCount (h : g.triggerCount = []) : ∃ node t, g.triggers = [(node, t)] := by
  rw [triggerCount] at h
  split at h
  · cases h
  · rename_i found one
    exact ⟨found.1, found.2, one⟩
  · cases h

theorem not_entered_of_enteredTriggers (h : g.enteredTriggers = []) (node : Node) (t : Trigger)
    (mem : (node, t) ∈ g.triggers) : g.incoming node.id = [] := by
  have quiet := List.filterMap_eq_nil_iff.mp h (node, t) mem
  by_contra entered
  simp [entered] at quiet

theorem closed_of_danglingEdges (h : g.danglingEdges = []) (edge : Edge) (mem : edge ∈ g.edges) :
    g.hasNode edge.source ∧ g.hasNode edge.target := by
  have both := List.filterMap_eq_nil_iff.mp h edge mem
  split at both
  · rename_i none_missing
    have present := List.filter_eq_nil_iff.mp none_missing
    exact ⟨by simpa using present edge.source (by simp), by simpa using present edge.target (by simp)⟩
  · cases both

/-- A node that has to lead on to one node does so. -/
theorem exists_outgoing {edges : List Edge} {node : Node}
    (h : (match edges with
      | [] => [Defect.deadEnd node.id]
      | [_] => []
      | several => [Defect.severalOutgoing node.id several.length]) = []) : ∃ edge, edges = [edge] := by
  split at h
  · cases h
  · exact ⟨_, rfl⟩
  · cases h

theorem branch_of_count {edges : List Edge} {branch : Branch}
    (h : (edges.countP fun edge => edge.branch = some branch) = 1) :
    ∃ edge, (edges.filter fun edge => edge.branch = some branch) = [edge] := by
  rwa [List.countP_eq_length_filter, List.length_eq_one_iff] at h

/-- A graph in which nothing is found wrong is valid. -/
theorem valid_of_structural (h : g.structural = []) : g.Valid := by
  simp only [structural, List.append_eq_nil_iff, and_assoc] at h
  obtain ⟨duplicates, count, entered, dangling, outgoing, cycles, -⟩ := h
  have leads := List.flatMap_eq_nil_iff.mp outgoing
  refine ⟨ids_nodup_of_duplicates duplicates, one_trigger_of_triggerCount count,
    not_entered_of_enteredTriggers entered, closed_of_danglingEdges dangling, ?_, ?_, ?_, ?_⟩
  · intro node mem t kind
    have none := leads node mem
    rw [outgoingOf, kind] at none
    exact exists_outgoing (List.append_eq_nil_iff.mp none).1
  · intro node mem a kind
    have none := leads node mem
    rw [outgoingOf, kind] at none
    exact exists_outgoing (List.append_eq_nil_iff.mp none).1
  · intro node mem expression kind branch
    have none := leads node mem
    rw [outgoingOf, kind] at none
    have both := (List.append_eq_nil_iff.mp none).1
    split at both
    · rename_i counted
      cases branch with
      | yes => exact branch_of_count counted.1
      | no => exact branch_of_count counted.2
    · cases both
  · rw [Graph.cycles] at cycles
    split at cycles
    · cases cycles
    · rename_i none
      obtain ⟨rank, bound, down⟩ := exists_rank_of_no_cycle none
      refine ⟨rank, bound, ?_⟩
      intro edge mem
      have ends := closed_of_danglingEdges dangling edge mem
      exact down edge mem ends.1 ends.2

theorem valid_of_defects (h : g.defects = .ok []) : g.Valid :=
  valid_of_structural (structural_eq_nil h)

theorem mem_of_node? {id : String} {node : Node} (h : g.node? id = some node) :
    node ∈ g.nodes ∧ node.id = id :=
  ⟨List.mem_of_find?_eq_some h, by simpa using List.find?_some h⟩

theorem mem_edges_of_outgoing {id : String} {edge : Edge} (h : edge ∈ g.outgoing id) :
    edge ∈ g.edges ∧ edge.source = id := by
  simpa using List.mem_filter.mp h

namespace Valid

theorem trigger?_eq (valid : g.Valid) : ∃ node t, g.trigger? = some (node, t) := by
  obtain ⟨node, t, one⟩ := valid.one_trigger
  exact ⟨node, t, by rw [trigger?, one]⟩

theorem mem_of_trigger? {node : Node} {t : Trigger} (h : g.trigger? = some (node, t)) :
    (node, t) ∈ g.triggers ∧ node ∈ g.nodes ∧ node.task = .trigger t := by
  rw [trigger?] at h
  split at h
  · rename_i found one
    cases h
    have mem : (node, t) ∈ g.triggers := by simp [one]
    refine ⟨mem, ?_⟩
    rw [triggers, List.mem_filterMap] at mem
    obtain ⟨other, mem, found⟩ := mem
    obtain ⟨task, kind, same⟩ := Option.map_eq_some_iff.mp found
    cases same
    rw [Node.trigger?] at kind
    split at kind
    · rename_i task
      cases kind
      exact ⟨mem, task⟩
    · cases kind
  · cases h

/-- A run has a node to begin at. -/
theorem exists_entrance (valid : g.Valid) : ∃ node t edge, g.trigger? = some (node, t) ∧
    g.outgoing node.id = [edge] := by
  obtain ⟨node, t, trigger⟩ := valid.trigger?_eq
  obtain ⟨-, mem, kind⟩ := mem_of_trigger? trigger
  obtain ⟨edge, leads⟩ := valid.trigger_leads node mem t kind
  exact ⟨node, t, edge, trigger, leads⟩

/-- Every edge leads to a node that is no trigger. -/
theorem target_node (valid : g.Valid) {edge : Edge} (mem : edge ∈ g.edges) :
    ∃ node, g.node? edge.target = some node ∧ ∀ t, node.task ≠ .trigger t := by
  obtain ⟨other, mem', same⟩ := List.any_eq_true.mp (valid.closed edge mem).2
  cases found : g.node? edge.target with
  | none => exact absurd same (List.find?_eq_none.mp found other mem')
  | some node =>
    refine ⟨node, rfl, ?_⟩
    intro t kind
    obtain ⟨mem_node, id⟩ := mem_of_node? found
    have trigger : (node, t) ∈ g.triggers :=
      List.mem_filterMap.mpr ⟨node, mem_node, by rw [Node.trigger?, kind]; rfl⟩
    have entered : edge ∈ g.incoming node.id := List.mem_filter.mpr ⟨mem, by simp [id]⟩
    rw [valid.not_entered node t trigger] at entered
    cases entered

end Valid

/-- Nodes whose identifiers come in order are searched in the order that they have. -/
theorem closingEdge?_of_sorted {g : Graph} (sorted : g.nodeIds.Pairwise fun a b => ¬ b < a) :
    g.closingEdge? = match g.searchFrom ⟨[], []⟩ g.nodeIds with
      | .ok _ => none
      | .error edge => some edge := by
  have same : g.nodeIds.mergeSort (fun a b => !decide (b < a)) = g.nodeIds :=
    List.mergeSort_of_pairwise (sorted.imp fun le => by simpa using le)
  have searched : g.closingEdge? =
      match g.searchFrom ⟨[], []⟩ (g.nodeIds.mergeSort fun a b => !decide (b < a)) with
      | .ok _ => none
      | .error edge => some edge := rfl
  rw [searched, same]

/-- To see that such a graph has no defects, three things can be computed. -/
theorem defects_of_sorted {g : Graph} (sorted : g.nodeIds.Pairwise fun a b => ¬ b < a)
    (acyclic : (g.searchFrom ⟨[], []⟩ g.nodeIds).isOk = true)
    (checked : (misconfigured g.nodes).map ((g.duplicates ++ g.triggerCount ++ g.enteredTriggers ++ g.danglingEdges ++
      g.nodes.flatMap g.outgoingOf ++ g.unreachableNodes) ++ ·) = .ok []) : g.defects = .ok [] := by
  have none : g.cycles = [] := by
    rw [cycles, closingEdge?_of_sorted sorted]
    cases searched : g.searchFrom ⟨[], []⟩ g.nodeIds with
    | ok => rfl
    | error edge =>
      rw [searched] at acyclic
      cases acyclic
  rw [defects, structural, none, List.append_nil]
  exact checked

/-- A graph that waits a minute between its trigger and its end. -/
def pausing : Graph :=
  ⟨[⟨"begin", "", none, .trigger ⟨.manual, []⟩⟩,
    ⟨"delay", "", none, .action ⟨.delay, [("seconds", .int 60)], false, none⟩⟩,
    ⟨"end", "", none, .finish⟩],
   [⟨"out", "begin", "delay", none⟩, ⟨"on", "delay", "end", none⟩], 1⟩

theorem pausing_sound : pausing.defects = .ok [] :=
  defects_of_sorted (by decide +kernel) (by decide +kernel) (by decide +kernel)

end TriggerFlow.Graph
