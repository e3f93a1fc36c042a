import TriggerFlow.Graph.Document
import TriggerFlow.Proofs.Workflow.Record

/-!
# Graphs survive being exported

The document of a graph describes its nodes and edges, with every one of their members, and in their order. A member
that is empty comes back as it was: it is either left out and is absent again, or it is replaced by a default that is
just as empty. So whatever has been imported from a document is described by its own document as well.
-/

namespace TriggerFlow

namespace Json

theorem orElse_text (s : String) : (text s).orElse (.text "") = .text s := by
  unfold orElse
  split
  · rfl
  · rename_i empty
    simp only [isTruthy, ne_eq, decide_not, Bool.not_eq_true', decide_eq_false_iff_not, not_not] at empty
    rw [empty]

theorem orElse_list (l : List Json) : (list l).orElse (.list []) = .list l := by cases l <;> rfl

theorem orElse_object (m : Members) : (object m).orElse (.object []) = .object m := by cases m <;> rfl

end Json

namespace Graph

open Json (member)

theorem objectMember_of_member {m inner : Members} {key : String} (fault : DocumentFault)
    (found : member m key = .object inner) : objectMember m key fault = .ok inner := by
  rw [objectMember, found, Json.orElse_object]

/-- The data of a node's document tell what the task of the node is. -/
theorem taskRecord_taskDocument (index : Nat) (task : Task) (label : Json) :
    taskRecord index (.text task.kindName) (("label", label) :: taskDocument task) = .ok task.members := by
  cases task with
  | trigger t =>
    obtain ⟨kind, config⟩ := t
    cases kind <;> cases config <;> rfl
  | action a =>
    obtain ⟨kind, config, goesOn, timeout⟩ := a
    cases timeout <;> cases config <;> rfl
  | condition expression => rfl
  | finish => rfl

/-- The document of a node describes it. -/
theorem nodeOfDocument_nodeDocument (index : Nat) {node : Node} (accepted : node.task.Accepted) :
    nodeOfDocument index (nodeDocument node) = .ok node := by
  obtain ⟨id, label, position, task⟩ := node
  have told := taskRecord_taskDocument index task (.text label)
  have read : Node.ofRecord (.object ([("id", .text id), ("kind", .text task.kindName), ("label", .text label),
      ("position", Position.record? position)] ++ task.members)) = .value ⟨id, label, position, task⟩ :=
    Node.ofRecord_of_perm accepted ((List.Perm.cons _ (List.perm_append_comm : ([_] ++ [_, _]).Perm _)).append_right _)
  obtain ⟨m, is, named, kind, placed, data⟩ : ∃ m, nodeDocument ⟨id, label, position, task⟩ = .object m ∧
      member m "id" = .text id ∧ member m "type" = .text task.kindName ∧
      member m "position" = Position.record? position ∧
      member m "data" = .object (("label", .text label) :: taskDocument task) := by
    cases position <;> exact ⟨_, rfl, rfl, rfl, rfl, rfl⟩
  have labelled : member (("label", .text label) :: taskDocument task) "label" = .text label := rfl
  simp only [is, nodeOfDocument, objectMember_of_member _ data, kind, told, named, labelled, Json.orElse_text, placed,
    bind, Except.bind, read]

/-- The document of an edge describes it. -/
theorem edgeOfDocument_edgeDocument (index : Nat) (edge : Edge) :
    edgeOfDocument index (edgeDocument edge) = .ok edge := by
  obtain ⟨id, source, target, _ | _ | _⟩ := edge <;> rfl

theorem readEach_map {α : Type} {read : Nat → Json → Except DocumentFault α} {write : α → Json} {l : List α}
    (each : ∀ a ∈ l, ∀ index, read index (write a) = .ok a) (index : Nat) :
    readEach read index (l.map write) = .ok l := by
  induction l generalizing index with
  | nil => rfl
  | cons a rest ih =>
    have others := ih (fun a mem => each a (List.mem_cons_of_mem _ mem)) (index + 1)
    simp only [List.map_cons, readEach, each a List.mem_cons_self, others, bind, Except.bind]

theorem read_of_readEach {α : Type} {read : Nat → Json → Except DocumentFault α} {index : Nat} {data : List Json}
    {found : List α} (reads : readEach read index data = .ok found) :
    ∀ a ∈ found, ∃ index datum, read index datum = .ok a := by
  induction data generalizing index found with
  | nil =>
    cases reads
    simp
  | cons datum rest ih =>
    unfold readEach at reads
    cases first : read index datum with
    | error fault =>
      rw [first] at reads
      cases reads
    | ok a =>
      cases left : readEach read (index + 1) rest with
      | error fault =>
        rw [first, left] at reads
        cases reads
      | ok others =>
        rw [first, left] at reads
        cases reads
        intro b mem
        rcases List.mem_cons.mp mem with rfl | mem
        · exact ⟨_, _, first⟩
        · exact ih left b mem

/-- The document of a graph describes its nodes and edges. -/
theorem ofDocument_of_nodes {nodes : List Node} (accepted : ∀ node ∈ nodes, node.task.Accepted) (edges : List Edge)
    (version : Int) : ofDocument (toDocument ⟨nodes, edges, version⟩) = .ok ⟨nodes, edges, 1⟩ := by
  have ofNodes := readEach_map (fun node mem index => nodeOfDocument_nodeDocument index (accepted node mem)) 0
  have ofEdges := readEach_map (fun edge (_ : edge ∈ edges) index => edgeOfDocument_edgeDocument index edge) 0
  have nodesGiven (a b : Json) : member [("nodes", a), ("edges", b)] "nodes" = a := rfl
  have edgesGiven (a b : Json) : member [("nodes", a), ("edges", b)] "edges" = b := rfl
  simp only [toDocument, ofDocument, nodesGiven, edgesGiven, Json.orElse_list, ofNodes, ofEdges, bind, Except.bind]

theorem accepted_of_nodeOfDocument {index : Nat} {datum : Json} {node : Node}
    (imported : nodeOfDocument index datum = .ok node) : node.task.Accepted := by
  unfold nodeOfDocument at imported
  split at imported
  · simp only [bind, Except.bind] at imported
    split at imported
    · cases imported
    split at imported
    · cases imported
    split at imported
    · cases imported
      exact Node.accepted_of_ofRecord ‹_›
    · cases imported
  · cases imported

/-- Whatever has been imported is a graph that records can have. -/
theorem accepted_of_ofDocument {document : Json} {g : Graph} (imported : ofDocument document = .ok g) :
    g.Accepted ∧ g.version = 1 := by
  unfold ofDocument at imported
  split at imported
  · split at imported
    · simp only [bind, Except.bind] at imported
      split at imported
      · cases imported
      rename_i nodes found
      split at imported
      · cases imported
      cases imported
      refine ⟨fun node mem => ?_, rfl⟩
      obtain ⟨index, datum, read⟩ := read_of_readEach found node mem
      exact accepted_of_nodeOfDocument read
    · cases imported
  · cases imported

/-- A graph that records can have, be it of its own or of a workflow, is described by its document, and so is every
graph that has been imported. Nothing is asked of the graph but what records ask, and whatever is read from one is
such. -/
theorem survives_export :
    (∀ g : Graph, g.Accepted → ofDocument g.toDocument = .ok { g with version := 1 }) ∧
    (∀ w : Workflow, w.graph.Accepted → ofDocument w.graph.toDocument = .ok ⟨w.nodes, w.edges, 1⟩) ∧
    (∀ datum g, ofRecord datum = .value g → g.Accepted) ∧
    (∀ fresh datum w, Workflow.ofRecord fresh datum = .value w → w.graph.Accepted) ∧
    ∀ document g, ofDocument document = .ok g → ofDocument g.toDocument = .ok g := by
  refine ⟨fun g accepted => ?_, fun w accepted => ?_, fun datum g read => ?_, fun fresh datum w read => ?_,
    fun document g imported => ?_⟩
  · exact ofDocument_of_nodes accepted g.edges g.version
  · exact ofDocument_of_nodes accepted w.edges w.version
  · exact accepted_iff.mpr ⟨datum, read⟩
  · exact Workflow.accepted_of_ofRecord read
  · obtain ⟨accepted, version⟩ := accepted_of_ofDocument imported
    obtain ⟨nodes, edges, _⟩ := g
    cases version
    exact ofDocument_of_nodes accepted edges 1

/-- A graph with an identifier that is empty, one that comes twice, an edge that leads nowhere, and members of every
kind, some of them empty. -/
def peculiar : Graph :=
  ⟨[⟨"", "", none, .trigger ⟨.event, [("event", .text "order"), ("filter", .null)]⟩⟩,
    ⟨"a", "Mail", some ⟨.ofIntRounded (-3), .zero true⟩,
      .action ⟨.sendEmail, [("to", .list [.bool false, .int 0])], true, some (.ofRatio false 1 2)⟩⟩,
    ⟨"a", "", none, .action ⟨.delay, [], false, none⟩⟩, ⟨"b", "", some ⟨.zero false, .zero false⟩, .condition ""⟩,
    ⟨"c", "End", none, .finish⟩],
   [⟨"", "", "a", none⟩, ⟨"", "b", "c", some .yes⟩, ⟨"2", "b", "ghost", some .no⟩], 7⟩

theorem peculiar_accepted : peculiar.Accepted := by
  intro node mem a is x limit
  simp only [peculiar, List.mem_cons, List.not_mem_nil, or_false] at mem
  rcases mem with rfl | rfl | rfl | rfl | rfl <;> cases is <;> cases limit
  decide +kernel

theorem peculiar_survives : peculiar.Accepted ∧ ofDocument peculiar.toDocument = .ok { peculiar with version := 1 } ∧
    ofDocument (Graph.toDocument { peculiar with version := 1 }) = .ok { peculiar with version := 1 } := by
  obtain ⟨graphs, -, -, -, documents⟩ := survives_export
  have imported := graphs peculiar peculiar_accepted
  exact ⟨peculiar_accepted, imported, documents _ _ imported⟩

end Graph

end TriggerFlow
