import TriggerFlow.Graph.Basic

/-!
Searches in a graph: for a cycle among its nodes, and for what can be reached along its edges. The search
for a cycle follows one path at a time and marks the nodes on it; an edge back to a marked node closes
a cycle.
-/

namespace TriggerFlow.Graph

/-- The identifiers of the nodes, each once, in the order of their first node. -/
def nodeIds (g : Graph) : List String := (g.nodes.map Node.id).eraseDups

/-- The targets of the edges from a node to nodes. -/
def targets (g : Graph) (id : String) : List String :=
  ((g.outgoing id).map Edge.target).filter g.hasNode

/-- How far a search has got with a node. -/
inductive Mark where
  | unseen | onPath | done
  deriving DecidableEq, Repr, Inhabited

/-- A search for a cycle. -/
structure PathSearch where
  /-- The path, its end first, each node with the targets that have not been followed from it. -/
  path : List (String × List String)
  marks : Ordered Mark
  deriving Repr

namespace PathSearch

def mark (s : PathSearch) (id : String) : Mark := (s.marks.get? id).getD .unseen

/-- What one step of a search leads to. -/
inductive Progress where
  | further (s : PathSearch)
  | closed (source target : String)
  | finished

/-- Follows one edge, or leaves a node from which all edges have been followed. -/
def advance (g : Graph) (s : PathSearch) : Progress :=
  match s.path with
  | [] => .finished
  | (id, []) :: rest => .further ⟨rest, s.marks.set id .done⟩
  | (id, target :: more) :: rest =>
    match s.mark target with
    | .onPath => .closed id target
    | .unseen =>
      .further ⟨(target, g.targets target) :: (id, more) :: rest, s.marks.set target .onPath⟩
    | .done => .further ⟨(id, more) :: rest, s.marks⟩

/-- Advances until the path is empty or closes; `fuel` bounds the steps. -/
def run (g : Graph) : Nat → PathSearch → Except (String × String) PathSearch
  | 0, s => .ok s
  | fuel + 1, s =>
    match s.advance g with
    | .further next => run g fuel next
    | .closed source target => .error (source, target)
    | .finished => .ok s

/-- Begins a path at a node that no path has led to. -/
def enter (g : Graph) (s : PathSearch) (id : String) : PathSearch :=
  match s.mark id with
  | .unseen => ⟨[(id, g.targets id)], s.marks.set id .onPath⟩
  | _ => s

end PathSearch

/-- Every step follows an edge or leaves a node. -/
def searchSteps (g : Graph) : Nat := g.nodes.length + g.edges.length + 1

/-- Searches from one node after the other. -/
def searchFrom (g : Graph) : PathSearch → List String → Except (String × String) PathSearch
  | s, [] => .ok s
  | s, id :: ids => do
    let s ← (s.enter g id).run g g.searchSteps
    searchFrom g s ids

/-- The edge that closes a cycle, if there is a cycle. Paths begin at the nodes in order of their
identifiers. -/
def closingEdge? (g : Graph) : Option (String × String) :=
  let starts := g.nodeIds.mergeSort fun a b => !decide (b < a)
  match g.searchFrom ⟨[], []⟩ starts with
  | .ok _ => none
  | .error edge => some edge

/-- Adds what the edges from the queue lead to, nearest first; `fuel` bounds the nodes taken from the
queue. -/
def spread (g : Graph) : Nat → List String → List String → List String
  | 0, _, seen => seen
  | _ + 1, [], seen => seen
  | fuel + 1, id :: queue, seen =>
    let fresh := (((g.outgoing id).map Edge.target).filter fun target => !seen.contains target).eraseDups
    spread g fuel (queue ++ fresh) (seen ++ fresh)

/-- The identifiers that edges lead to from a start, with the start. -/
def reached (g : Graph) (start : String) : List String :=
  g.spread (g.edges.length + 2) [start] [start]

end TriggerFlow.Graph
