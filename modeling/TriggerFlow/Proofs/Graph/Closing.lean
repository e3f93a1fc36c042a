import TriggerFlow.Proofs.Graph.Cycle
import TriggerFlow.Graph.Search
import Mathlib.Data.Finset.Card
import Mathlib.Logic.Relation

/-!
# The edge that closes a cycle

The nodes on the path of a search lead one to the next, from its first node to its end. An edge from the end
back to a node of the path is therefore an edge of a cycle; where no edge closes a path the nodes have ranks,
and a cycle would lead to a rank below itself. So a closing edge is found where there is a cycle, and only there.
-/

/-!
## What a node can be reached by

Edges are followed whatever they lead to, a node or not. A search takes one identifier after the other from its
queue, so what it has seen but no longer queues has had all its edges followed; once the queue is empty nothing
is left to follow. Every step takes one identifier from the queue, and an identifier comes into the queue only
once, as the target of an edge: the budget of the search lasts.
-/

namespace TriggerFlow.Graph

variable {g : Graph} {start id next : String} {queue seen : List String}

/-- An edge leads from one identifier to another, be they nodes or not. -/
def Steps (g : Graph) (a b : String) : Prop := ∃ edge ∈ g.edges, edge.source = a ∧ edge.target = b

theorem steps_iff {a b : String} : g.Steps a b ↔ b ∈ (g.outgoing a).map Edge.target := by
  constructor
  · rintro ⟨edge, mem, source, target⟩
    have out : edge ∈ g.outgoing a := List.mem_filter.mpr ⟨mem, by simpa using source⟩
    exact List.mem_map.mpr ⟨edge, out, target⟩
  · intro mem
    obtain ⟨edge, out, target⟩ := List.mem_map.mp mem
    obtain ⟨mem, source⟩ := List.mem_filter.mp out
    exact ⟨edge, mem, by simpa using source, target⟩

/-- A search that has seen some identifiers and queues those whose edges it has not followed. -/
structure Spreading (g : Graph) (start : String) (queue seen : List String) : Prop where
  begun : start ∈ seen
  queued : ∀ id ∈ queue, id ∈ seen
  sound : ∀ id ∈ seen, Relation.ReflTransGen g.Steps start id
  followed : ∀ id ∈ seen, id ∉ queue → ∀ next, g.Steps id next → next ∈ seen

/-- What is left of a list without its repetitions has none. -/
theorem nodup_eraseDups {α : Type} [BEq α] [LawfulBEq α] (items : List α) : items.eraseDups.Nodup := by
  induction h : items.length using Nat.strong_induction_on generalizing items with
  | _ n ih =>
    cases items with
    | nil => exact List.nodup_nil
    | cons first rest =>
      rw [List.eraseDups_cons, List.nodup_cons]
      have shorter := List.length_filter_le (fun other => !other == first) rest
      rw [List.length_cons] at h
      constructor
      · simp [List.mem_eraseDups]
      · exact ih _ (by omega) _ rfl

/-- The targets that come into the queue with the identifier at its head. -/
def fresh (g : Graph) (id : String) (seen : List String) : List String :=
  (((g.outgoing id).map Edge.target).filter fun target => !seen.contains target).eraseDups

theorem mem_fresh_iff : next ∈ g.fresh id seen ↔ g.Steps id next ∧ next ∉ seen := by
  rw [fresh, List.mem_eraseDups, List.mem_filter, ← steps_iff]
  simp

/-- The targets of edges that have not been seen. -/
def unseenTargets (g : Graph) (seen : List String) : Finset String :=
  (g.edges.map Edge.target).toFinset \ seen.toFinset

theorem unseenTargets_fresh (g : Graph) (seen : List String) (id : String) :
    (g.unseenTargets (seen ++ g.fresh id seen)).card + (g.fresh id seen).length =
      (g.unseenTargets seen).card := by
  have nodup : (g.fresh id seen).Nodup := nodup_eraseDups _
  have sub : (g.fresh id seen).toFinset ⊆ g.unseenTargets seen := by
    intro next mem
    obtain ⟨⟨edge, mem, -, target⟩, unseen⟩ := mem_fresh_iff.mp (List.mem_toFinset.mp mem)
    have aimed : next ∈ g.edges.map Edge.target := List.mem_map.mpr ⟨edge, mem, target⟩
    exact Finset.mem_sdiff.mpr ⟨List.mem_toFinset.mpr aimed, by simpa using unseen⟩
  have rest : g.unseenTargets (seen ++ g.fresh id seen) =
      g.unseenTargets seen \ (g.fresh id seen).toFinset := by
    rw [unseenTargets, unseenTargets, List.toFinset_append, sdiff_sdiff, Finset.sup_eq_union]
  have counted := Finset.card_sdiff_add_card_eq_card sub
  rw [← rest, List.toFinset_card_of_nodup nodup] at counted
  exact counted

/-- The identifier at the head of the queue has its edges followed. -/
theorem Spreading.step (s : Spreading g start (id :: queue) seen) :
    Spreading g start (queue ++ g.fresh id seen) (seen ++ g.fresh id seen) where
  begun := List.mem_append_left _ s.begun
  queued := by
    intro other mem
    rcases List.mem_append.mp mem with mem | mem
    · exact List.mem_append_left _ (s.queued other (List.mem_cons_of_mem _ mem))
    · exact List.mem_append_right _ mem
  sound := by
    intro other mem
    rcases List.mem_append.mp mem with mem | mem
    · exact s.sound other mem
    · have here := s.sound id (s.queued id List.mem_cons_self)
      exact here.tail (mem_fresh_iff.mp mem).1
  followed := by
    intro other mem unqueued next leads
    have off : other ∉ queue ∧ other ∉ g.fresh id seen := by simpa using unqueued
    have known : other ∈ seen := (List.mem_append.mp mem).resolve_right off.2
    by_cases same : other = id
    · subst same
      by_cases old : next ∈ seen
      · exact List.mem_append_left _ old
      · exact List.mem_append_right _ (mem_fresh_iff.mpr ⟨leads, old⟩)
    · have waits : other ∉ id :: queue := by simp [same, off.1]
      exact List.mem_append_left _ (s.followed other known waits next leads)

/-- With a budget for the queue and all that may still come into it, nothing is left to follow in the end. -/
theorem spread_spreading (fuel : Nat) (s : Spreading g start queue seen)
    (enough : queue.length + (g.unseenTargets seen).card ≤ fuel) :
    Spreading g start [] (g.spread fuel queue seen) := by
  induction fuel generalizing queue seen with
  | zero =>
    have empty : queue = [] := List.length_eq_zero_iff.mp (by omega)
    subst empty
    exact s
  | succ fuel ih =>
    cases queue with
    | nil => exact s
    | cons id queue =>
      apply ih s.step
      have counted := unseenTargets_fresh g seen id
      rw [List.length_cons] at enough
      rw [List.length_append]
      omega

/-- What is reached is what a path of edges leads to. -/
theorem mem_reached_iff : id ∈ g.reached start ↔ Relation.ReflTransGen g.Steps start id := by
  have first : Spreading g start [start] [start] := by
    refine ⟨List.mem_singleton_self _, fun _ mem => mem, ?_, ?_⟩
    · intro id mem
      rw [List.mem_singleton.mp mem]
    · intro id mem unqueued
      exact absurd mem unqueued
  have enough : [start].length + (g.unseenTargets [start]).card ≤ g.edges.length + 2 := by
    have few : (g.unseenTargets [start]).card ≤ (g.edges.map Edge.target).toFinset.card :=
      Finset.card_le_card Finset.sdiff_subset
    have fewer := List.toFinset_card_le (g.edges.map Edge.target)
    rw [List.length_map] at fewer
    rw [List.length_singleton]
    omega
  have all := spread_spreading (g.edges.length + 2) first enough
  constructor
  · exact all.sound id
  · intro path
    induction path with
    | refl => exact all.begun
    | tail _ leads ih => exact all.followed _ ih List.not_mem_nil _ leads

end TriggerFlow.Graph

/-! ## Paths and cycles -/

namespace TriggerFlow.Graph

/-- An edge between two nodes. -/
def Joins (g : Graph) (a b : String) : Prop := g.Steps a b ∧ g.hasNode a ∧ g.hasNode b

/-- Some node is led back to itself by edges between nodes. -/
def Cyclic (g : Graph) : Prop := ∃ id, Relation.TransGen g.Joins id id

theorem mem_targets_iff {g : Graph} {id target : String} :
    target ∈ g.targets id ↔ g.Steps id target ∧ g.hasNode target := by
  rw [targets, List.mem_filter, ← steps_iff]

namespace PathSearch

variable {g : Graph} {s t : PathSearch} {left : List String} {source target : String}

/-- Every node of a path is led to by the node below it. -/
def Linked (g : Graph) (path : List (String × List String)) : Prop :=
  (path.map Prod.fst).IsChain fun above below => above ∈ g.targets below

/-- The nodes of a chain lead to the one at its head. -/
theorem steps_to_head {ids : List String} {id : String} (nodes : ∀ other ∈ id :: ids, g.hasNode other)
    (chain : (id :: ids).IsChain fun above below => above ∈ g.targets below) :
    ∀ other ∈ id :: ids, Relation.ReflTransGen g.Joins other id := by
  induction ids generalizing id with
  | nil =>
    intro other mem
    rw [List.mem_singleton.mp mem]
  | cons below rest ih =>
    obtain ⟨aims, chain⟩ := List.isChain_cons_cons.mp chain
    have joins : g.Joins below id :=
      ⟨(mem_targets_iff.mp aims).1, nodes below (by simp), nodes id (by simp)⟩
    have others := ih (fun other mem => nodes other (List.mem_cons_of_mem _ mem)) chain
    intro other mem
    rcases List.mem_cons.mp mem with same | mem
    · rw [same]
    · exact (others other mem).tail joins

theorem Sound.node_of_path (sound : Sound g s left) {id : String} (mem : id ∈ s.path.map Prod.fst) :
    g.hasNode id := by
  have marked := (sound.onPath_iff id).mpr mem
  exact sound.known id (by simp [marked])

/-- What is still to be followed from the end of a path are targets of that end. -/
theorem Sound.mem_targets (sound : Sound g s left) {id : String} {more : List String}
    {rest : List (String × List String)} (at_edge : s.path = (id, target :: more) :: rest) :
    target ∈ g.targets id := by
  have threaded := sound.threaded
  rw [at_edge] at threaded
  obtain ⟨⟨followed, split, -⟩, -⟩ := threaded
  rw [split]
  simp

/-- The path of a search that goes on is still linked. -/
theorem advance_linked (sound : Sound g s left) (linked : Linked g s.path)
    (further : s.advance g = .further t) : Linked g t.path := by
  rcases at_node : s.path with _ | ⟨⟨id, _ | ⟨target, more⟩⟩, rest⟩
  · simp [advance, at_node] at further
  · simp only [advance, at_node, Progress.further.injEq] at further
    subst further
    rw [Linked, at_node] at linked
    exact linked.tail
  · have aims := sound.mem_targets at_node
    rw [Linked, at_node] at linked
    cases mark : s.mark target with
    | onPath => simp [advance, at_node, mark] at further
    | done =>
      simp only [advance, at_node, mark, Progress.further.injEq] at further
      subst further
      exact linked
    | unseen =>
      simp only [advance, at_node, mark, Progress.further.injEq] at further
      subst further
      exact List.isChain_cons_cons.mpr ⟨aims, linked⟩

/-- An edge back to the path leads from its end to a node that leads to its end. -/
theorem advance_closed (sound : Sound g s left) (linked : Linked g s.path)
    (closed : s.advance g = .closed source target) :
    g.Joins source target ∧ Relation.ReflTransGen g.Joins target source := by
  rcases at_node : s.path with _ | ⟨⟨id, _ | ⟨next, more⟩⟩, rest⟩
  · simp [advance, at_node] at closed
  · simp [advance, at_node] at closed
  · have aims := sound.mem_targets at_node
    cases mark : s.mark next with
    | unseen => simp [advance, at_node, mark] at closed
    | done => simp [advance, at_node, mark] at closed
    | onPath =>
      simp only [advance, at_node, mark, Progress.closed.injEq] at closed
      obtain ⟨rfl, rfl⟩ := closed
      have back : next ∈ s.path.map Prod.fst := (sound.onPath_iff next).mp mark
      have nodes : ∀ other ∈ s.path.map Prod.fst, g.hasNode other := fun _ => sound.node_of_path
      rw [at_node] at back nodes
      rw [Linked, at_node] at linked
      have joins : g.Joins id next :=
        ⟨(mem_targets_iff.mp aims).1, nodes id (by simp), nodes next back⟩
      exact ⟨joins, steps_to_head nodes linked next back⟩

theorem run_error (fuel : Nat) (sound : Sound g s left) (linked : Linked g s.path)
    (closed : run g fuel s = .error (source, target)) :
    g.Joins source target ∧ Relation.ReflTransGen g.Joins target source := by
  induction fuel generalizing s left with
  | zero => cases closed
  | succ fuel ih =>
    rw [run] at closed
    cases step : s.advance g with
    | further next =>
      rw [step] at closed
      obtain ⟨⟨more, further⟩, -, -⟩ := advance_further sound step
      exact ih further (advance_linked sound linked step) closed
    | closed source target =>
      rw [step] at closed
      cases closed
      exact advance_closed sound linked step
    | finished => rw [step] at closed; cases closed

theorem enter_linked (ended : s.path = []) (id : String) : Linked g (s.enter g id).path := by
  rw [enter]
  split
  · exact List.isChain_singleton _
  · rw [Linked, ended]
    exact List.isChain_nil

end PathSearch

open PathSearch

variable {g : Graph} {source target : String}

theorem searchFrom_error {s : PathSearch} {left : List String} (starts : List String)
    (sound : PathSearch.Sound g s left) (ended : s.path = []) (enough : remaining g s ≤ g.searchSteps)
    (nodes : ∀ id ∈ starts, g.hasNode id) (closed : g.searchFrom s starts = .error (source, target)) :
    g.Joins source target ∧ Relation.ReflTransGen g.Joins target source := by
  induction starts generalizing s left with
  | nil => cases closed
  | cons id rest ih =>
    obtain ⟨entered, cost, -⟩ := enter_sound sound ended (nodes id List.mem_cons_self)
    rw [searchFrom] at closed
    cases ran : (s.enter g id).run g g.searchSteps with
    | error edge =>
      rw [ran] at closed
      cases closed
      exact run_error _ entered (enter_linked ended id) ran
    | ok next =>
      rw [ran] at closed
      obtain ⟨⟨more, sound'⟩, ended', fewer, -⟩ := run_ok _ entered (by omega) ran
      exact ih sound' ended' (by omega) (fun other mem => nodes other (List.mem_cons_of_mem _ mem)) closed

/-- An edge that closes a cycle is an edge of that cycle. -/
theorem closingEdge?_sound (h : g.closingEdge? = some (source, target)) :
    g.Joins source target ∧ Relation.ReflTransGen g.Joins target source := by
  cases search : g.searchFrom ⟨[], []⟩ (g.nodeIds.mergeSort fun a b => !decide (b < a)) with
  | ok t => simp only [closingEdge?, search, reduceCtorEq] at h
  | error edge =>
    simp only [closingEdge?, search, Option.some.injEq] at h
    subst h
    have nodes : ∀ id ∈ g.nodeIds.mergeSort fun a b => !decide (b < a), g.hasNode id :=
      fun id mem => mem_nodeIds_iff.mp (List.mem_mergeSort.mp mem)
    exact searchFrom_error _ sound_start rfl remaining_start_le nodes search

/-- Edges between nodes lead down where every single one does. -/
theorem rank_lt_of_transGen {rank : String → Nat} {a b : String}
    (down : ∀ edge ∈ g.edges, g.hasNode edge.source → g.hasNode edge.target →
      rank edge.target < rank edge.source)
    (path : Relation.TransGen g.Joins a b) : rank b < rank a := by
  have step : ∀ {a b : String}, g.Joins a b → rank b < rank a := by
    rintro a b ⟨⟨edge, mem, rfl, rfl⟩, source, target⟩
    exact down edge mem source target
  induction path with
  | single joins => exact step joins
  | tail _ joins ih => exact (step joins).trans ih

/-- A closing edge is found where a graph has a cycle, and only there. -/
theorem exists_closingEdge_iff :
    (∃ source target, g.closingEdge? = some (source, target)) ↔ g.Cyclic := by
  constructor
  · rintro ⟨source, target, found⟩
    obtain ⟨joins, back⟩ := closingEdge?_sound found
    exact ⟨source, Relation.TransGen.head' joins back⟩
  · rintro ⟨id, cycle⟩
    cases found : g.closingEdge? with
    | some edge => exact ⟨edge.1, edge.2, rfl⟩
    | none =>
      obtain ⟨rank, -, down⟩ := exists_rank_of_no_cycle found
      exact absurd (rank_lt_of_transGen down cycle) (Nat.lt_irrefl _)

end TriggerFlow.Graph
