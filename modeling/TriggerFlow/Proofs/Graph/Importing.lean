import TriggerFlow.Proofs.Graph.Document

/-!
# What a document is read for

Reading a document asks for certain members: two lists in the document, and in their items what nodes and edges are made
of, where the kind of a node decides which of its data count. Nothing else in the document matters, neither to the graph
nor to the fault. If the lists are lists, the fault lies in the first node that is none, or in the first edge that is
none if all nodes are nodes.
-/

namespace TriggerFlow.Graph

open Json (member)
open Record

/-! ### Seeing some members only -/

/-- The keys that are looked at, and how the data there are seen. -/
abbrev Views := List (String × (Json → Json))

/-- Looking at the data at these keys just as they are. -/
def plain (keys : List String) : Views := keys.map (·, id)

namespace Views

/-- The members at the keys that are looked at. -/
def see (views : Views) (m : Members) : Members :=
  views.filterMap fun (key, view) => (m.get? key).map fun datum => (key, view datum)

/-- An object with what is seen of it. Anything else is seen as it is. -/
def seen (views : Views) : Json → Json
  | .object m => .object (views.see m)
  | datum => datum

variable {views inner : Views} {key : String} {view : Json → Json} {m : Members}

theorem see_nil (views : Views) : views.see [] = [] := by simp [see]

theorem get?_see (views : Views) (m : Members) (key : String) :
    (views.see m).get? key = (views.lookup key).bind fun view => (m.get? key).map view := by
  induction views with
  | nil => rfl
  | cons first views ih =>
    obtain ⟨k, view⟩ := first
    rw [see] at ih ⊢
    by_cases same : k = key
    · subst same
      cases found : m.get? k with
      | none => simp [found, ih]
      | some datum => simp [found, Ordered.get?]
    · have other : (key == k) = false := by simp [Ne.symm same]
      cases found : m.get? k <;> simp [List.lookup_cons, other, found, ih, Ordered.get?, same]

theorem member_see (known : views.lookup key = some view) (null : view .null = .null) :
    member (views.see m) key = view (member m key) := by
  rw [member, get?_see, known, member]
  cases m.get? key with
  | none => exact null.symm
  | some datum => rfl

theorem member_see_id (known : views.lookup key = some id) : member (views.see m) key = member m key :=
  member_see known rfl

theorem optional_see {α : Type} (known : views.lookup key = some id) (fallback : α) (read : Json → Reading α) :
    optional (views.see m) key fallback read = optional m key fallback read := by
  rw [Record.optional, get?_see, known, Option.bind_some, Option.map_id, id, Record.optional]

/-- An empty object is seen as empty. -/
theorem seen_orElse (datum : Json) :
    (views.seen datum).orElse (.object []) = views.seen (datum.orElse (.object [])) := by
  cases datum with
  | object m => rw [seen, Json.orElse_object, Json.orElse_object, seen]
  | _ =>
    rw [seen, Json.orElse]
    · split
      · rfl
      · rw [seen, see_nil]
    · nofun

theorem objectMember_see (known : views.lookup key = some inner.seen) (fault : DocumentFault) :
    objectMember (views.see m) key fault = (objectMember m key fault).map inner.see := by
  rw [objectMember, member_see known rfl, seen_orElse, objectMember]
  cases (member m key).orElse (.object []) <;> rfl

/-- What is made of an inner object, if nothing else of it is asked for than what is seen. -/
theorem objectMember_bind_see {α : Type} {record : Members → Except DocumentFault α}
    (known : views.lookup key = some inner.seen) (fault : DocumentFault) (same : ∀ m, record (inner.see m) = record m) :
    (objectMember (views.see m) key fault).bind record = (objectMember m key fault).bind record := by
  rw [objectMember_see known]
  cases objectMember m key fault with
  | error fault => rfl
  | ok found => exact same found

end Views

/-! ### What is asked for -/

/-- The members of the payload of a task. The payload stands under the name of the kind. -/
def payloadKeys : List (String × List String) :=
  [("trigger", ["type", "config"]), ("action", ["type", "config", "continueOnError", "timeoutSeconds"]),
    ("condition", ["expression"])]

/-- The payload that a kind of node asks for. -/
def payloadViews : Json → Views
  | .text kind => ((payloadKeys.lookup kind).map fun keys => (kind, (plain keys).seen)).toList
  | _ => []

def dataViews (kind : Json) : Views := ("label", id) :: payloadViews kind

def nodeViews (kind : Json) : Views :=
  [("id", id), ("type", id), ("position", (plain ["x", "y"]).seen), ("data", (dataViews kind).seen)]

/-- What is looked at in a node. -/
def nodeSeen : Json → Json
  | .object m => .object ((nodeViews (member m "type")).see m)
  | item => item

/-- What is looked at in an edge. -/
def edgeSeen : Json → Json := (plain ["id", "source", "target", "sourceHandle"]).seen

/-- The items of a list as they are seen. Anything else is seen as it is. -/
def eachSeen (view : Json → Json) : Json → Json
  | .list items => .list (items.map view)
  | datum => datum

/-- What is looked at in a document. -/
def recognised : Json → Json := Views.seen [("nodes", eachSeen nodeSeen), ("edges", eachSeen edgeSeen)]

/-! ### Nothing else matters -/

open Views

theorem nullable_position (datum : Json) :
    nullable Position.ofRecord ((plain ["x", "y"]).seen datum) = nullable Position.ofRecord datum := by
  cases datum with
  | object m =>
    have read : Position.ofRecord (.object ((plain ["x", "y"]).see m)) = Position.ofRecord (.object m) := by
      rw [Position.ofRecord, ofObject, optional_see rfl, optional_see rfl]
      rfl
    exact congrArg (some <$> ·) read
  | _ => rfl

section

variable {name kind label position other : Json} {task : Members}

/-- The record that is made from a node's document. -/
abbrev recordWith (name kind label position : Json) (task : Members) : Members :=
  [("id", name), ("kind", kind), ("label", label), ("position", position)] ++ task

theorem ofMembers_position (same : nullable Position.ofRecord position = nullable Position.ofRecord other)
    (read : Reading Task) : Node.ofMembers (recordWith name kind label position task) read =
      Node.ofMembers (recordWith name kind label other task) read := by
  have placed (place : Json) : Record.optional (recordWith name kind label place task) "position" none
    (nullable Position.ofRecord) = (nullable Position.ofRecord place).under "position" := rfl
  rw [Node.ofMembers, placed, same]
  rfl

/-- No task asks for a position. -/
theorem task_position {reader : String} {read : Members → Reading Task} (known : Node.taskReader? reader = some read) :
    read (recordWith name kind label position task) = read (recordWith name kind label other task) := by
  rw [Node.taskReader?] at known
  split_ifs at known <;> cases known <;> rfl

/-- A node with another position reads the same if the position does. -/
theorem ofRecord_position (same : nullable Position.ofRecord position = nullable Position.ofRecord other) :
    Node.ofRecord (.object (recordWith name kind label position task)) =
      Node.ofRecord (.object (recordWith name kind label other task)) := by
  cases kind with
  | text kind =>
    have tagged (place : Json) :
      Ordered.get? (recordWith name (.text kind) label place task) "kind" = some (.text kind) := rfl
    simp only [Node.ofRecord, tagged]
    cases known : Node.taskReader? kind with
    | none => rfl
    | some read =>
      dsimp only
      rw [task_position known, ofMembers_position same]
  | _ => rfl

end

theorem taskRecord_see (index : Nat) (kind : Json) (data : Members) :
    taskRecord index kind ((dataViews kind).see data) = taskRecord index kind data := by
  unfold taskRecord
  dsimp only
  split
  · exact objectMember_bind_see rfl _ fun trigger => by rw [member_see_id rfl, member_see_id rfl]
  · exact objectMember_bind_see rfl _ fun action => by
      rw [member_see_id rfl, member_see_id rfl, member_see_id rfl, member_see_id rfl]
  · exact objectMember_bind_see rfl _ fun condition => by rw [member_see_id rfl]
  · rfl

theorem nodeOfDocument_seen (index : Nat) (item : Json) :
    nodeOfDocument index (nodeSeen item) = nodeOfDocument index item := by
  cases item with
  | object m =>
    have kind : member ((nodeViews (member m "type")).see m) "type" = member m "type" := member_see_id rfl
    rw [nodeSeen, nodeOfDocument, nodeOfDocument, kind, objectMember_see rfl]
    cases objectMember m "data" (.dataNotAnObject index) with
    | error fault => rfl
    | ok data =>
      dsimp only [Except.map, bind, Except.bind]
      rw [taskRecord_see, member_see_id rfl, member_see_id rfl, member_see rfl rfl]
      cases taskRecord index (member m "type") data with
      | error fault => rfl
      | ok task =>
        dsimp only
        rw [ofRecord_position (nullable_position _)]
  | _ => rfl

theorem edgeOfDocument_seen (index : Nat) (item : Json) :
    edgeOfDocument index (edgeSeen item) = edgeOfDocument index item := by
  cases item with
  | object m =>
    rw [edgeSeen, Views.seen, edgeOfDocument, edgeOfDocument, member_see_id rfl, member_see_id rfl, member_see_id rfl,
      member_see_id rfl]
  | _ => rfl

theorem readEach_seen {α : Type} {read : Nat → Json → Except DocumentFault α} {view : Json → Json}
    (seen : ∀ index item, read index (view item) = read index item) (index : Nat) (items : List Json) :
    readEach read index (items.map view) = readEach read index items := by
  induction items generalizing index with
  | nil => rfl
  | cons item rest ih => rw [List.map_cons, readEach, readEach, seen, ih]

theorem eachSeen_orElse (view : Json → Json) (datum : Json) :
    (eachSeen view datum).orElse (.list []) = eachSeen view (datum.orElse (.list [])) := by
  cases datum with
  | list items => rw [eachSeen, Json.orElse_list, Json.orElse_list, eachSeen]
  | _ =>
    rw [eachSeen, Json.orElse]
    · split <;> rfl
    · nofun

/-- A document is read as what is recognised of it. -/
theorem ofDocument_recognised (document : Json) : ofDocument (recognised document) = ofDocument document := by
  cases document with
  | object m =>
    rw [recognised, Views.seen, ofDocument, ofDocument, member_see rfl rfl, member_see rfl rfl, eachSeen_orElse,
      eachSeen_orElse]
    generalize (member m "nodes").orElse (.list []) = nodes
    generalize (member m "edges").orElse (.list []) = edges
    cases nodes with
    | list nodes =>
      cases edges with
      | list edges =>
        simp only [eachSeen, readEach_seen nodeOfDocument_seen, readEach_seen edgeOfDocument_seen]
      | _ => rfl
    | _ => rfl
  | _ => rfl

/-! ### Where the fault lies -/

/-- The part of a document in which a fault lies. -/
def DocumentFault.part? : DocumentFault → Option Part
  | .partNotAnObject part | .invalid part _ => some part
  | .dataNotAnObject index | .payloadNotAnObject index _ => some (.node index)
  | .notJson _ | .notAnObject | .notLists => none

/-- The text of a fault begins with the part. -/
theorem DocumentFault.message_of_part? {fault : DocumentFault} {part : Part} (lies : fault.part? = some part) :
    ∃ rest, fault.message = part.text ++ rest := by
  cases fault <;> cases lies
  · exact ⟨_, rfl⟩
  · exact ⟨_, rfl⟩
  · exact ⟨_, by simp only [message, String.append_assoc]; rfl⟩
  · exact ⟨_, rfl⟩

theorem objectMember_cases (m : Members) (key : String) :
    (∃ inner, ∀ fault, objectMember m key fault = .ok inner) ∨ ∀ fault, objectMember m key fault = .error fault := by
  simp only [objectMember]
  cases (member m key).orElse (.object []) with
  | object inner => exact .inl ⟨inner, fun _ => rfl⟩
  | _ => exact .inr fun _ => rfl

theorem taskRecord_cases (kind : Json) (data : Members) :
    (∃ task, ∀ index, taskRecord index kind data = .ok task) ∨
      ∃ key, ∀ index, taskRecord index kind data = .error (.payloadNotAnObject index key) := by
  have payload (key : String) {read : Nat → Except DocumentFault Members} (record : Members → Members)
      (reads : ∀ index, read index =
        (objectMember data key (.payloadNotAnObject index key)).bind fun inner => .ok (record inner)) :
      (∃ task, ∀ index, read index = .ok task) ∨
        ∃ key, ∀ index, read index = .error (.payloadNotAnObject index key) := by
    obtain ⟨inner, is⟩ | none := objectMember_cases data key
    · exact .inl ⟨record inner, fun _ => by rw [reads, is]; rfl⟩
    · exact .inr ⟨key, fun _ => by rw [reads, none]; rfl⟩
  unfold taskRecord
  split
  · exact payload "trigger" _ fun _ => rfl
  · exact payload "action" _ fun _ => rfl
  · exact payload "condition" _ fun _ => rfl
  · exact .inl ⟨[], fun _ => rfl⟩

/-- A reader of items that reads an item wherever it stands, or blames each place at which it may stand. -/
def Located {α : Type} (read : Nat → Json → Except DocumentFault α) (part : Nat → Part) : Prop :=
  ∀ item, (∃ a, ∀ index, read index item = .ok a) ∨
    ∀ index, ∃ fault, read index item = .error fault ∧ fault.part? = some (part index)

theorem located_node : Located nodeOfDocument .node := by
  intro item
  cases item with
  | object m =>
    simp only [nodeOfDocument]
    obtain ⟨data, are⟩ | none := objectMember_cases m "data"
    · simp only [are, bind, Except.bind]
      obtain ⟨task, is⟩ | ⟨key, none⟩ := taskRecord_cases (member m "type") data
      · simp only [is]
        cases Node.ofRecord _ with
        | value node => exact .inl ⟨node, fun _ => rfl⟩
        | issues found => exact .inr fun _ => ⟨_, rfl, rfl⟩
      · simp only [none]
        exact .inr fun _ => ⟨_, rfl, rfl⟩
    · simp only [none, bind, Except.bind]
      exact .inr fun _ => ⟨_, rfl, rfl⟩
  | _ => exact .inr fun _ => ⟨_, rfl, rfl⟩

theorem located_edge : Located edgeOfDocument .edge := by
  intro item
  cases item with
  | object m =>
    simp only [edgeOfDocument]
    cases Edge.ofRecord _ with
    | value edge => exact .inl ⟨edge, fun _ => rfl⟩
    | issues found => exact .inr fun _ => ⟨_, rfl, rfl⟩
  | _ => exact .inr fun _ => ⟨_, rfl, rfl⟩

/-- The first item that cannot be read decides how the reading of all of them ends. -/
theorem Located.readEach {α : Type} {read : Nat → Json → Except DocumentFault α} {part : Nat → Part}
    (located : Located read part) (start : Nat) (items : List Json) :
    match items.findIdx? fun item => !(read 0 item).isOk with
    | none => ∃ found, readEach read start items = .ok found ∧
        List.Forall₂ (fun item a => read 0 item = .ok a) items found
    | some index => ∃ fault, readEach read start items = .error fault ∧ fault.part? = some (part (start + index)) := by
  induction items generalizing start with
  | nil => exact ⟨[], rfl, .nil⟩
  | cons item rest ih =>
    rw [List.findIdx?_cons]
    obtain ⟨a, is⟩ | none := located item
    · have others := ih (start + 1)
      rw [is 0, if_neg (by exact Bool.false_ne_true)]
      simp only [Graph.readEach, is start, bind, Except.bind]
      cases first : rest.findIdx? fun item => !(read 0 item).isOk with
      | none =>
        rw [first] at others
        obtain ⟨found, reads, each⟩ := others
        exact ⟨a :: found, by rw [reads], .cons (is 0) each⟩
      | some index =>
        rw [first] at others
        obtain ⟨fault, fails, lies⟩ := others
        refine ⟨fault, by rw [fails], ?_⟩
        rw [lies, Nat.add_assoc, Nat.add_comm 1]
    · obtain ⟨fault, fails, -⟩ := none 0
      obtain ⟨fault', fails', lies⟩ := none start
      rw [fails, if_pos (by exact rfl)]
      exact ⟨fault', by simp only [Graph.readEach, fails', bind, Except.bind], lies⟩

/-- The document with one item in the list of this key. -/
def alone (key : String) (item : Json) : Json := .object [(key, .list [item])]

/-- Whether an item is a node. Alone in a document it makes a graph then. -/
def isNode (item : Json) : Bool := (ofDocument (alone "nodes" item)).isOk

/-- Whether an item is an edge. Alone in a document it makes a graph then. -/
def isEdge (item : Json) : Bool := (ofDocument (alone "edges" item)).isOk

theorem ofDocument_alone_node (item : Json) :
    ofDocument (alone "nodes" item) = (nodeOfDocument 0 item).map fun node => ⟨[node], [], 1⟩ := by
  have read : ofDocument (alone "nodes" item) =
    (do let nodes ← readEach nodeOfDocument 0 [item]; .ok ⟨nodes, [], 1⟩) := rfl
  rw [read, Graph.readEach]
  cases nodeOfDocument 0 item <;> rfl

theorem ofDocument_alone_edge (item : Json) :
    ofDocument (alone "edges" item) = (edgeOfDocument 0 item).map fun edge => ⟨[], [edge], 1⟩ := by
  have read : ofDocument (alone "edges" item) =
    (do let edges ← readEach edgeOfDocument 0 [item]; .ok ⟨[], edges, 1⟩) := rfl
  rw [read, Graph.readEach]
  cases edgeOfDocument 0 item <;> rfl

theorem isOk_map {ε α β : Type} (f : α → β) (answer : Except ε α) : (answer.map f).isOk = answer.isOk := by
  cases answer <;> rfl

/-- The items of a document, of which an absent or empty list has none; nothing if the lists are no lists. -/
def items? : Json → Option (List Json × List Json)
  | .object m =>
    match (member m "nodes").orElse (.list []), (member m "edges").orElse (.list []) with
    | .list nodes, .list edges => some (nodes, edges)
    | _, _ => none
  | _ => none

theorem ofDocument_of_items? {document : Json} {nodes edges : List Json}
    (found : items? document = some (nodes, edges)) : ofDocument document = (do
      let nodes ← readEach nodeOfDocument 0 nodes
      let edges ← readEach edgeOfDocument 0 edges
      .ok ⟨nodes, edges, 1⟩) := by
  unfold items? at found
  split at found
  · split at found
    · cases found
      simp only [ofDocument, *]
    · cases found
  · cases found

theorem ofDocument_of_items?_none {document : Json} (none : items? document = none) :
    ofDocument document = .error .notAnObject ∨ ofDocument document = .error .notLists := by
  cases document with
  | object m =>
    right
    rw [ofDocument]
    split
    next nodes edges nodesAre edgesAre => simp only [items?, nodesAre, edgesAre, reduceCtorEq] at none
    next => rfl
  | _ => exact .inl rfl

/-- The first item that is no node, or the first that is no edge if all nodes are nodes. -/
def firstBad? (nodes edges : List Json) : Option Part :=
  ((nodes.findIdx? fun item => !isNode item).map .node).or ((edges.findIdx? fun item => !isEdge item).map .edge)

theorem firstBad?_eq (nodes edges : List Json) : firstBad? nodes edges =
    ((nodes.findIdx? fun item => !(nodeOfDocument 0 item).isOk).map .node).or
      ((edges.findIdx? fun item => !(edgeOfDocument 0 item).isOk).map .edge) := by
  have isNode_eq (item : Json) : isNode item = (nodeOfDocument 0 item).isOk := by
    rw [isNode, ofDocument_alone_node, isOk_map]
  have isEdge_eq (item : Json) : isEdge item = (edgeOfDocument 0 item).isOk := by
    rw [isEdge, ofDocument_alone_edge, isOk_map]
  simp only [firstBad?, isNode_eq, isEdge_eq]

/-- Every document makes a graph or has a fault. The fault is that there are no lists of items, or else it lies in the
first node that is none, or in the first edge that is none if all nodes are nodes, and its text begins with this part.
Whatever else two documents hold, they make the same graph or have the same fault if they agree on what is looked at. -/
theorem reads_what_is_recognised (document : Json) :
    (match items? document with
      | none => ofDocument document = .error .notAnObject ∨ ofDocument document = .error .notLists
      | some (nodes, edges) =>
        match firstBad? nodes edges with
        | none => ∃ g, ofDocument document = .ok g ∧
            List.Forall₂ (fun item node => ofDocument (alone "nodes" item) = .ok ⟨[node], [], 1⟩) nodes g.nodes ∧
            List.Forall₂ (fun item edge => ofDocument (alone "edges" item) = .ok ⟨[], [edge], 1⟩) edges g.edges
        | some part => ∃ fault rest, ofDocument document = .error fault ∧ fault.part? = some part ∧
            fault.message = part.text ++ rest) ∧
      ∀ other, recognised other = recognised document → ofDocument other = ofDocument document := by
  refine ⟨?_, fun other same => by rw [← ofDocument_recognised, same, ofDocument_recognised]⟩
  cases found : items? document with
  | none => exact ofDocument_of_items?_none found
  | some items =>
    obtain ⟨nodes, edges⟩ := items
    have ofNodes := located_node.readEach 0 nodes
    have ofEdges := located_edge.readEach 0 edges
    simp only [Nat.zero_add] at ofNodes ofEdges
    simp only [firstBad?_eq, ofDocument_of_items? found]
    cases firstNode : nodes.findIdx? fun item => !(nodeOfDocument 0 item).isOk with
    | some index =>
      rw [firstNode] at ofNodes
      obtain ⟨fault, fails, lies⟩ := ofNodes
      obtain ⟨rest, begins⟩ := DocumentFault.message_of_part? lies
      exact ⟨fault, rest, by rw [fails]; rfl, lies, begins⟩
    | none =>
      rw [firstNode] at ofNodes
      obtain ⟨foundNodes, readNodes, eachNode⟩ := ofNodes
      cases firstEdge : edges.findIdx? fun item => !(edgeOfDocument 0 item).isOk with
      | some index =>
        rw [firstEdge] at ofEdges
        obtain ⟨fault, fails, lies⟩ := ofEdges
        obtain ⟨rest, begins⟩ := DocumentFault.message_of_part? lies
        exact ⟨fault, rest, by rw [readNodes, fails]; rfl, lies, begins⟩
      | none =>
        rw [firstEdge] at ofEdges
        obtain ⟨foundEdges, readEdges, eachEdge⟩ := ofEdges
        refine ⟨⟨foundNodes, foundEdges, 1⟩, by rw [readNodes, readEdges]; rfl, eachNode.imp ?_, eachEdge.imp ?_⟩
        · exact fun item node reads => by rw [ofDocument_alone_node, reads]; rfl
        · exact fun item edge reads => by rw [ofDocument_alone_edge, reads]; rfl

/-- Items of a document. The payload of the second is a text, and the third leads nowhere. -/
def tidyItems : Json × Json × Json :=
  (.object [("id", .text "1"), ("type", .text "trigger"), ("position", .object [("y", .int 2)]),
    ("data", .object [("label", .text "Start"), ("trigger", .object [("type", .text "event-based")])])],
  .object [("id", .text "2"), ("type", .text "action"), ("data", .object [("action", .text "delay")])],
  .object [("id", .text "e")])

def tidy : Json :=
  .object [("nodes", .list [tidyItems.1, tidyItems.2.1]), ("edges", .list [tidyItems.2.2])]

/-- The same document with other members at every level, and with the keys in another order. -/
def cluttered : Json :=
  .object [("version", .text "2"), ("edges", .list [.object [("animated", .bool true), ("id", .text "e")]]),
    ("nodes", .list
      [.object [("type", .text "trigger"), ("data", .object [("action", .text "delay"), ("label", .text "Start"),
          ("trigger", .object [("nextActions", .list [.text "2"]), ("type", .text "event-based")])]),
          ("position", .object [("z", .text "front"), ("y", .int 2)]), ("id", .text "1")],
        .object [("id", .text "2"), ("type", .text "action"), ("selected", .null),
          ("data", .object [("trueAction", .text "1"), ("action", .text "delay")])]])]

theorem cluttered_reads_like_tidy :
    recognised cluttered = recognised tidy ∧ ofDocument cluttered = ofDocument tidy ∧
      ∃ fault rest, ofDocument tidy = .error fault ∧ fault.part? = some (.node 1) ∧
        fault.message = (Part.node 1).text ++ rest := by
  obtain ⟨blamed, agreeing⟩ := reads_what_is_recognised tidy
  have same : recognised cluttered = recognised tidy := rfl
  have listed : items? tidy = some ([tidyItems.1, tidyItems.2.1], [tidyItems.2.2]) := rfl
  have bad : firstBad? [tidyItems.1, tidyItems.2.1] [tidyItems.2.2] = some (.node 1) := by decide +kernel
  simp only [listed, bad] at blamed
  exact ⟨same, agreeing cluttered same, blamed⟩

end TriggerFlow.Graph
