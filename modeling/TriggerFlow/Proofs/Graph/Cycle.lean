import TriggerFlow.Graph.Search
import Mathlib.Algebra.BigOperators.Group.Finset.Piecewise
import Mathlib.Algebra.GroupWithZero.Nat
import Mathlib.Algebra.Order.BigOperators.Group.Finset
import Mathlib.Data.Finset.Card

/-!
# The search for a cycle

The nodes that a search has done with are kept in the order in which it left them, the last one first.
Every node of that order leads only to nodes further down, so a search that comes to its end without
closing a path ranks the nodes, and every edge between nodes leads to a lower rank. The budget of the
search is the number of nodes and edges; every step uses up one of them, and none is left too early.
-/

namespace TriggerFlow.Graph

namespace PathSearch

variable {g : Graph} {s t : PathSearch} {left : List String}

/-- Every node of the list leads only to nodes further down. -/
def Settled (g : Graph) : List String → Prop
  | [] => True
  | id :: rest => (∀ target ∈ g.targets id, target ∈ rest) ∧ Settled g rest

/-- Every target that has been followed from a node of the path is done with, or is the node above. -/
def Threaded (g : Graph) (left : List String) : Option String → List (String × List String) → Prop
  | _, [] => True
  | above, (id, rest) :: below =>
    (∃ followed, g.targets id = followed ++ rest ∧ ∀ target ∈ followed, target ∈ left ∨ above = some target) ∧
      Threaded g left (some id) below

/-- A search that has left the nodes of a list, the last one first. -/
structure Sound (g : Graph) (s : PathSearch) (left : List String) : Prop where
  done_iff : ∀ id, s.mark id = .done ↔ id ∈ left
  onPath_iff : ∀ id, s.mark id = .onPath ↔ id ∈ s.path.map Prod.fst
  path_nodup : (s.path.map Prod.fst).Nodup
  left_nodup : left.Nodup
  known : ∀ id, s.mark id ≠ .unseen → g.hasNode id
  settled : Settled g left
  threaded : Threaded g left none s.path

theorem mark_set (s : PathSearch) (id other : String) (m : Mark) (path : List (String × List String)) :
    (⟨path, s.marks.set id m⟩ : PathSearch).mark other = if id = other then m else s.mark other := by
  by_cases h : id = other
  · subst h
    simp [mark, Ordered.get?_set_self]
  · simp [mark, Ordered.get?_set_of_ne _ _ h, h]

theorem Threaded.mono {left more : List String} (sub : ∀ id ∈ left, id ∈ more) :
    ∀ {above : Option String} {path : List (String × List String)},
      Threaded g left above path → Threaded g more above path
  | _, [], _ => trivial
  | _, (_, _) :: _, ⟨⟨followed, split, old⟩, rest⟩ =>
    ⟨⟨followed, split, fun target h => (old target h).imp_left (sub target)⟩, rest.mono sub⟩

/-- What stands above a path no longer matters once it is done with. -/
theorem Threaded.drop_above {id : String} (h : id ∈ left) {path : List (String × List String)}
    (threaded : Threaded g left (some id) path) : Threaded g left none path := by
  match path, threaded with
  | [], _ => trivial
  | (_, _) :: _, ⟨⟨followed, split, old⟩, rest⟩ =>
    refine ⟨⟨followed, split, fun target ht => Or.inl ?_⟩, rest⟩
    rcases old target ht with done | same
    · exact done
    · exact Option.some.inj same ▸ h

theorem hasNode_of_mem_targets (id : String) {target : String} (h : target ∈ g.targets id) :
    g.hasNode target := (List.mem_filter.mp h).2

/-- The nodes that no path has led to, with the edges that leave them. -/
def unseenSteps (g : Graph) (s : PathSearch) : Nat :=
  ∑ id ∈ g.nodeIds.toFinset with s.mark id = .unseen, ((g.targets id).length + 1)

/-- The steps that a search has before it. -/
def remaining (g : Graph) (s : PathSearch) : Nat :=
  (s.path.map fun entry => entry.2.length + 1).sum + unseenSteps g s

theorem mem_nodeIds_iff {id : String} : id ∈ g.nodeIds ↔ g.hasNode id := by
  simp [nodeIds, hasNode, List.mem_eraseDups]

/-- A node that has been seen counts no more among the unseen ones. -/
theorem unseenSteps_mark {id : String} {m : Mark} (unseen : s.mark id = .unseen) (seen : m ≠ .unseen)
    (node : g.hasNode id) (path : List (String × List String)) :
    unseenSteps g ⟨path, s.marks.set id m⟩ + ((g.targets id).length + 1) = unseenSteps g s := by
  have members : g.nodeIds.toFinset.filter (fun other =>
      (⟨path, s.marks.set id m⟩ : PathSearch).mark other = .unseen) =
      (g.nodeIds.toFinset.filter fun other => s.mark other = .unseen).erase id := by
    ext other
    rw [Finset.mem_erase, Finset.mem_filter, Finset.mem_filter, mark_set]
    by_cases h : id = other
    · simp [h, seen]
    · simp [h, Ne.symm h]
  have mem : id ∈ g.nodeIds.toFinset.filter fun other => s.mark other = .unseen := by
    simp [mem_nodeIds_iff, node, unseen]
  rw [unseenSteps, members, unseenSteps]
  exact Finset.sum_erase_add _ _ mem

/-- A mark that changes between seen ones leaves the unseen ones alone. -/
theorem unseenSteps_remark {id : String} {m : Mark} (old : s.mark id ≠ .unseen) (seen : m ≠ .unseen)
    (path : List (String × List String)) :
    unseenSteps g ⟨path, s.marks.set id m⟩ = unseenSteps g s := by
  have members : g.nodeIds.toFinset.filter (fun other =>
      (⟨path, s.marks.set id m⟩ : PathSearch).mark other = .unseen) =
      g.nodeIds.toFinset.filter fun other => s.mark other = .unseen := by
    ext other
    rw [Finset.mem_filter, Finset.mem_filter, mark_set]
    by_cases h : id = other
    · subst h
      simp [seen, old]
    · simp [h]
  rw [unseenSteps, members, unseenSteps]

/-- A node whose edges have all been followed is left. -/
theorem Sound.leave {id : String} {rest : List (String × List String)}
    (sound : Sound g s left) (at_end : s.path = (id, []) :: rest) :
    Sound g ⟨rest, s.marks.set id .done⟩ (id :: left) := by
  have on_path : s.mark id = .onPath := (sound.onPath_iff id).mpr (by simp [at_end])
  have fresh : id ∉ left := fun h => by
    have done := (sound.done_iff id).mpr h
    rw [on_path] at done
    cases done
  have nodup := sound.path_nodup
  have threaded := sound.threaded
  rw [at_end] at nodup threaded
  obtain ⟨⟨followed, split, old⟩, below⟩ := threaded
  refine ⟨?_, ?_, ?_, ?_, ?_, ?_, ?_⟩
  · intro other
    rw [mark_set]
    by_cases h : id = other
    · simp [h]
    · simp [h, Ne.symm h, sound.done_iff]
  · intro other
    rw [mark_set]
    by_cases h : id = other
    · subst h
      simpa using (List.nodup_cons.mp nodup).1
    · simp [h, Ne.symm h, sound.onPath_iff, at_end]
  · exact (List.nodup_cons.mp nodup).2
  · exact List.nodup_cons.mpr ⟨fresh, sound.left_nodup⟩
  · intro other
    rw [mark_set]
    by_cases h : id = other
    · subst h
      intro _
      exact sound.known id (by simp [on_path])
    · simpa [h] using sound.known other
  · refine ⟨?_, sound.settled⟩
    intro target ht
    have h : target ∈ followed := by simpa [split] using ht
    exact (old target h).resolve_right (by simp)
  · exact (below.mono fun _ h => List.mem_cons_of_mem _ h).drop_above (by simp)

/-- An edge to a node that is done with is passed over. -/
theorem Sound.pass {id target : String} {more : List String} {rest : List (String × List String)}
    (sound : Sound g s left) (at_edge : s.path = (id, target :: more) :: rest)
    (done : s.mark target = .done) : Sound g ⟨(id, more) :: rest, s.marks⟩ left := by
  have on_path := sound.onPath_iff
  have nodup := sound.path_nodup
  have threaded := sound.threaded
  rw [at_edge] at on_path nodup threaded
  obtain ⟨⟨followed, split, old⟩, below⟩ := threaded
  refine ⟨sound.done_iff, on_path, nodup, sound.left_nodup, sound.known, sound.settled, ?_, below⟩
  refine ⟨followed ++ [target], by simp [split], ?_⟩
  intro other h
  rcases List.mem_append.mp h with h | h
  · exact old other h
  · exact Or.inl (List.mem_singleton.mp h ▸ (sound.done_iff target).mp done)

/-- A node that is seen for the first time becomes the end of the path. -/
theorem Sound.push {target : String} {path : List (String × List String)}
    (sound : Sound g s left) (unseen : s.mark target = .unseen) (node : g.hasNode target)
    (keys : path.map Prod.fst = s.path.map Prod.fst) (threaded : Threaded g left (some target) path) :
    Sound g ⟨(target, g.targets target) :: path, s.marks.set target .onPath⟩ left := by
  have off_path : target ∉ s.path.map Prod.fst := fun h => by
    have on_path := (sound.onPath_iff target).mpr h
    rw [unseen] at on_path
    cases on_path
  have fresh : target ∉ left := fun h => by
    have done := (sound.done_iff target).mpr h
    rw [unseen] at done
    cases done
  refine ⟨?_, ?_, ?_, sound.left_nodup, ?_, sound.settled, ?_⟩
  · intro other
    rw [mark_set]
    by_cases h : target = other
    · subst h
      simp [fresh]
    · simp [h, sound.done_iff]
  · intro other
    rw [mark_set]
    by_cases h : target = other
    · simp [h]
    · simp [h, Ne.symm h, sound.onPath_iff, keys]
  · rw [List.map_cons, keys]
    exact List.nodup_cons.mpr ⟨off_path, sound.path_nodup⟩
  · intro other
    rw [mark_set]
    by_cases h : target = other
    · subst h
      exact fun _ => node
    · simpa [h] using sound.known other
  · exact ⟨⟨[], by simp, by simp⟩, threaded⟩

/-- A mark of another kind makes no node unseen. -/
theorem seen_of_marked {id other : String} {m : Mark} {path : List (String × List String)} (kind : m ≠ .unseen)
    (seen : s.mark other ≠ .unseen) : (⟨path, s.marks.set id m⟩ : PathSearch).mark other ≠ .unseen := by
  rw [mark_set]
  split
  · exact kind
  · exact seen

/-- A step goes on with one step less before it, and keeps what has been seen and left. -/
theorem advance_further (sound : Sound g s left) (h : s.advance g = .further t) :
    (∃ more, Sound g t (more ++ left)) ∧ remaining g t + 1 = remaining g s ∧
      ∀ id, s.mark id ≠ .unseen → t.mark id ≠ .unseen := by
  rcases at_node : s.path with _ | ⟨⟨id, _ | ⟨target, more⟩⟩, rest⟩
  · simp [advance, at_node] at h
  · simp only [advance, at_node, Progress.further.injEq] at h
    subst h
    have on_path : s.mark id ≠ .unseen := by
      rw [(sound.onPath_iff id).mpr (by simp [at_node])]
      simp
    have same := unseenSteps_remark (g := g) (m := .done) on_path (by simp) rest
    refine ⟨⟨[id], sound.leave at_node⟩, ?_, ?_⟩
    · simp only [remaining, same, at_node, List.map_cons, List.sum_cons, List.length_nil]
      omega
    · exact fun other seen => seen_of_marked (by simp) seen
  · have threaded := sound.threaded
    rw [at_node] at threaded
    obtain ⟨⟨followed, split, old⟩, below⟩ := threaded
    cases mark : s.mark target with
    | onPath => simp [advance, at_node, mark] at h
    | done =>
      simp only [advance, at_node, mark, Progress.further.injEq] at h
      subst h
      have same : unseenSteps g ⟨(id, more) :: rest, s.marks⟩ = unseenSteps g s := rfl
      refine ⟨⟨[], sound.pass at_node mark⟩, ?_, fun _ seen => seen⟩
      simp only [remaining, same, at_node, List.map_cons, List.sum_cons, List.length_cons]
      omega
    | unseen =>
      simp only [advance, at_node, mark, Progress.further.injEq] at h
      subst h
      have node : g.hasNode target := hasNode_of_mem_targets id (by simp [split])
      have fewer := unseenSteps_mark (m := .onPath) mark (by simp) node
        ((target, g.targets target) :: (id, more) :: rest)
      refine ⟨⟨[], sound.push mark node (by simp [at_node])
        ⟨⟨followed ++ [target], by simp [split], ?_⟩, below⟩⟩, ?_, ?_⟩
      · intro other h
        rcases List.mem_append.mp h with h | h
        · exact (old other h).imp_right (by simp)
        · exact Or.inr (List.mem_singleton.mp h ▸ rfl)
      · simp only [remaining, at_node, List.map_cons, List.sum_cons, List.length_cons]
        omega
      · exact fun other seen => seen_of_marked (by simp) seen

theorem path_eq_nil_of_finished (h : s.advance g = .finished) : s.path = [] := by
  rcases at_node : s.path with _ | ⟨⟨id, _ | ⟨target, more⟩⟩, rest⟩
  · rfl
  · simp [advance, at_node] at h
  · cases mark : s.mark target <;> simp [advance, at_node, mark] at h

theorem path_eq_nil_of_remaining (h : remaining g s = 0) : s.path = [] := by
  rcases at_node : s.path with _ | ⟨entry, rest⟩
  · rfl
  · simp [remaining, at_node] at h

/-- A search within its budget that closes no path leaves every node that it has seen. -/
theorem run_ok (fuel : Nat) (sound : Sound g s left) (enough : remaining g s ≤ fuel)
    (h : run g fuel s = .ok t) :
    (∃ more, Sound g t (more ++ left)) ∧ t.path = [] ∧ remaining g t ≤ remaining g s ∧
      ∀ id, s.mark id ≠ .unseen → t.mark id ≠ .unseen := by
  induction fuel generalizing s left with
  | zero =>
    cases h
    exact ⟨⟨[], sound⟩, path_eq_nil_of_remaining (Nat.le_zero.mp enough), le_rfl, fun _ seen => seen⟩
  | succ fuel ih =>
    rw [run] at h
    cases step : s.advance g with
    | further next =>
      rw [step] at h
      obtain ⟨⟨more, sound'⟩, fewer, kept⟩ := advance_further sound step
      obtain ⟨⟨more', sound''⟩, ended, fewer', kept'⟩ := ih sound' (by omega) h
      exact ⟨⟨more' ++ more, by simpa using sound''⟩, ended, by omega,
        fun id seen => kept' id (kept id seen)⟩
    | closed source target => rw [step] at h; cases h
    | finished =>
      rw [step] at h
      cases h
      exact ⟨⟨[], sound⟩, path_eq_nil_of_finished step, le_rfl, fun _ seen => seen⟩

/-- Entering a node costs no step, and the node has been seen then. -/
theorem enter_sound {id : String} (sound : Sound g s left) (ended : s.path = []) (node : g.hasNode id) :
    Sound g (s.enter g id) left ∧ remaining g (s.enter g id) = remaining g s ∧
      ∀ other, other = id ∨ s.mark other ≠ .unseen → (s.enter g id).mark other ≠ .unseen := by
  cases mark : s.mark id with
  | unseen =>
    simp only [enter, mark]
    have fewer := unseenSteps_mark (m := .onPath) mark (by simp) node [(id, g.targets id)]
    refine ⟨sound.push mark node (by simp [ended]) trivial, ?_, ?_⟩
    · simp only [remaining, ended, List.map_cons, List.map_nil, List.sum_cons, List.sum_nil]
      omega
    · intro other seen
      rw [mark_set]
      split
      · simp
      · exact seen.resolve_left (Ne.symm ‹_›)
  | onPath =>
    simp only [enter, mark]
    exact ⟨sound, trivial, fun other seen => seen.elim (fun same => by simp [same, mark]) fun h => h⟩
  | done =>
    simp only [enter, mark]
    exact ⟨sound, trivial, fun other seen => seen.elim (fun same => by simp [same, mark]) fun h => h⟩

end PathSearch

open PathSearch

variable {g : Graph} {left : List String}

/-- Searches from all nodes that close no path leave all of them. -/
theorem searchFrom_ok {s t : PathSearch} (starts : List String) (sound : PathSearch.Sound g s left)
    (ended : s.path = []) (enough : remaining g s ≤ g.searchSteps)
    (nodes : ∀ id ∈ starts, g.hasNode id) (h : g.searchFrom s starts = .ok t) :
    (∃ more, PathSearch.Sound g t (more ++ left)) ∧ t.path = [] ∧
      ∀ id, id ∈ starts ∨ s.mark id ≠ .unseen → t.mark id ≠ .unseen := by
  induction starts generalizing s left with
  | nil =>
    cases h
    exact ⟨⟨[], sound⟩, ended, fun id seen => seen.resolve_left List.not_mem_nil⟩
  | cons id rest ih =>
    obtain ⟨entered, cost, seen⟩ := enter_sound sound ended (nodes id List.mem_cons_self)
    rw [searchFrom] at h
    cases run : (s.enter g id).run g g.searchSteps with
    | error edge => rw [run] at h; cases h
    | ok next =>
      rw [run] at h
      obtain ⟨⟨more, sound'⟩, ended', fewer, kept⟩ := run_ok _ entered (by omega) run
      obtain ⟨⟨more', sound''⟩, ended'', seen'⟩ := ih sound' ended' (by omega)
        (fun other h => nodes other (List.mem_cons_of_mem id h)) h
      refine ⟨⟨more' ++ more, by simpa using sound''⟩, ended'', fun other h => seen' other ?_⟩
      rcases h with h | h
      · rcases List.mem_cons.mp h with same | h
        · exact Or.inr (kept other (seen other (Or.inl same)))
        · exact Or.inl h
      · exact Or.inr (kept other (seen other (Or.inr h)))

/-- The edges that leave different nodes are different edges. -/
theorem sum_outgoing_le (edges : List Edge) (ids : Finset String) :
    ∑ id ∈ ids, (edges.filter fun edge => edge.source = id).length ≤ edges.length := by
  induction edges with
  | nil => simp
  | cons edge rest ih =>
    have split : ∀ id, ((edge :: rest).filter fun e => e.source = id).length =
        (if edge.source = id then 1 else 0) + (rest.filter fun e => e.source = id).length := by
      intro id
      by_cases h : edge.source = id <;> simp [h, Nat.add_comm]
    have one : ∑ id ∈ ids, (if edge.source = id then 1 else 0) ≤ 1 := by
      rw [Finset.sum_ite_eq]
      split <;> simp
    calc ∑ id ∈ ids, ((edge :: rest).filter fun e => e.source = id).length
        = ∑ id ∈ ids, (if edge.source = id then 1 else 0) +
            ∑ id ∈ ids, (rest.filter fun e => e.source = id).length := by
          rw [← Finset.sum_add_distrib]
          exact Finset.sum_congr rfl fun id _ => split id
      _ ≤ 1 + rest.length := Nat.add_le_add one ih
      _ = (edge :: rest).length := by rw [List.length_cons, Nat.add_comm]

/-- The budget of a search lasts for all nodes and edges. -/
theorem remaining_start_le : remaining g ⟨[], []⟩ ≤ g.searchSteps := by
  have nodes : g.nodeIds.toFinset.card ≤ g.nodes.length := by
    have same : g.nodeIds.toFinset = (g.nodes.map Node.id).toFinset := by
      ext id
      simp [nodeIds, List.mem_eraseDups]
    rw [same]
    exact (List.toFinset_card_le _).trans (by simp)
  have edges : ∑ id ∈ g.nodeIds.toFinset, (g.targets id).length ≤ g.edges.length := by
    refine (Finset.sum_le_sum ?_).trans (sum_outgoing_le g.edges g.nodeIds.toFinset)
    intro id _
    exact (List.length_filter_le _ _).trans (by simp [outgoing])
  have all : unseenSteps g ⟨[], []⟩ = ∑ id ∈ g.nodeIds.toFinset, ((g.targets id).length + 1) := by
    rw [unseenSteps, Finset.filter_true_of_mem]
    intro id _
    rfl
  have sum : remaining g ⟨[], []⟩ =
      ∑ id ∈ g.nodeIds.toFinset, (g.targets id).length + g.nodeIds.toFinset.card := by
    rw [remaining, all, Finset.sum_add_distrib]
    simp
  rw [sum, searchSteps]
  omega

theorem sound_start : PathSearch.Sound g ⟨[], []⟩ [] where
  done_iff id := by simp [PathSearch.mark]
  onPath_iff id := by simp [PathSearch.mark]
  path_nodup := List.nodup_nil
  left_nodup := List.nodup_nil
  known id h := absurd rfl h
  settled := trivial
  threaded := trivial

/-- How far up a node stands in a list of nodes. -/
def height : List String → String → Nat
  | [], _ => 0
  | id :: rest, other => if other = id then rest.length + 1 else height rest other

theorem height_le (order : List String) (id : String) : height order id ≤ order.length := by
  induction order with
  | nil => exact Nat.le_refl 0
  | cons first rest ih =>
    rw [height, List.length_cons]
    split
    · exact Nat.le_refl _
    · omega

/-- In a settled order every edge between its nodes leads down. -/
theorem height_lt {order : List String} (nodup : order.Nodup) (settled : Settled g order)
    {id target : String} (mem : id ∈ order) (edge : target ∈ g.targets id) :
    target ∈ order ∧ height order target < height order id := by
  induction order with
  | nil => cases mem
  | cons first rest ih =>
    obtain ⟨leads, settled⟩ := settled
    obtain ⟨fresh, nodup⟩ := List.nodup_cons.mp nodup
    rcases List.mem_cons.mp mem with rfl | mem
    · have below := leads target edge
      have ne : target ≠ id := fun same => fresh (same ▸ below)
      have bound := height_le rest target
      refine ⟨List.mem_cons_of_mem _ below, ?_⟩
      rw [height, height, if_neg ne, if_pos rfl]
      omega
    · obtain ⟨below, lower⟩ := ih nodup settled mem
      have ne : target ≠ first := fun same => fresh (same ▸ below)
      have ne' : id ≠ first := fun same => fresh (same ▸ mem)
      exact ⟨List.mem_cons_of_mem _ below, by rwa [height, height, if_neg ne, if_neg ne']⟩

/-- Where no path closes, the nodes can be ranked so that every edge between nodes leads down. -/
theorem exists_rank_of_no_cycle (h : g.closingEdge? = none) :
    ∃ rank : String → Nat, (∀ id, rank id ≤ g.nodes.length) ∧
      ∀ edge ∈ g.edges, g.hasNode edge.source → g.hasNode edge.target →
        rank edge.target < rank edge.source := by
  cases search : g.searchFrom ⟨[], []⟩ (g.nodeIds.mergeSort fun a b => !decide (b < a)) with
  | error edge => simp only [closingEdge?, search, reduceCtorEq] at h
  | ok t =>
    obtain ⟨⟨order, sound⟩, ended, seen⟩ := searchFrom_ok _ sound_start rfl remaining_start_le
      (fun id h => mem_nodeIds_iff.mp (List.mem_mergeSort.mp h)) search
    rw [List.append_nil] at sound
    have all : ∀ id, g.hasNode id → id ∈ order := by
      intro id node
      have marked := seen id (Or.inl (List.mem_mergeSort.mpr (mem_nodeIds_iff.mpr node)))
      have off_path : t.mark id ≠ .onPath := fun h => by
        have mem := (sound.onPath_iff id).mp h
        rw [ended] at mem
        cases mem
      cases mark : t.mark id with
      | unseen => exact absurd mark marked
      | onPath => exact absurd mark off_path
      | done => exact (sound.done_iff id).mp mark
    have few : order.length ≤ g.nodes.length := by
      have sub : order ⊆ g.nodes.map Node.id := fun id mem => by
        have node := sound.known id (by rw [(sound.done_iff id).mpr mem]; simp)
        simpa [hasNode] using node
      simpa using (sound.left_nodup.subperm sub).length_le
    refine ⟨height order, fun id => (height_le order id).trans few, ?_⟩
    intro edge mem source target
    refine (height_lt sound.left_nodup sound.settled (all _ source) ?_).2
    exact List.mem_filter.mpr ⟨List.mem_map.mpr ⟨edge, List.mem_filter.mpr ⟨mem, by simp⟩, rfl⟩, target⟩

end TriggerFlow.Graph
