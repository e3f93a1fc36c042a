import TriggerFlow.Graph.Check
import TriggerFlow.Proofs.Graph.Closing
import Mathlib.Data.List.Perm.Subperm

/-!
# The way of the search for a cycle

The search goes from stage to stage: it begins at a node, follows an edge, or leaves a node. What it has followed from a
node is always a front of the targets of that node, and what is left of them stands on the path, so that no edge is
followed twice. Every stage uses up a node to begin at, an edge to follow or a node to leave; the search ends, whatever
the graph, and the budget of its runs is never what ends it.
-/

namespace TriggerFlow.Graph

/-- The edges between nodes, each as often as it is there. -/
def links (g : Graph) : List (String × String) :=
  (g.edges.filter fun edge => g.hasNode edge.source && g.hasNode edge.target).map fun edge => (edge.source, edge.target)

/-- The edge that a search follows next, if it follows one. -/
def PathSearch.ahead (s : PathSearch) : List (String × String) :=
  match s.path with
  | (id, target :: _) :: _ => [(id, target)]
  | _ => []

/-- How far the search has come. -/
structure Stage where
  search : PathSearch
  /-- The nodes that it has not tried to begin at. -/
  starts : List String
  /-- The edges that it has followed, the last one first. -/
  followed : List (String × String)

namespace Stage

/-- Before the search nothing has been seen. -/
def first (g : Graph) : Stage := ⟨⟨[], []⟩, g.nodeIds.mergeSort fun a b => !decide (b < a), []⟩

/-- The next stage; or, at the end, the edge that closes a cycle, if there is one. -/
def next (g : Graph) (st : Stage) : Stage ⊕ Option (String × String) :=
  match st.search.advance g with
  | .further t => .inl ⟨t, st.starts, st.search.ahead ++ st.followed⟩
  | .closed source target => .inr (some (source, target))
  | .finished =>
    match st.starts with
    | [] => .inr none
    | id :: rest => .inl ⟨st.search.enter g id, rest, st.followed⟩

end Stage

/-- The search stands at a stage after so many steps. -/
inductive Tour (g : Graph) : Nat → Stage → Prop
  | first : Tour g 0 (.first g)
  | step {n : Nat} {st after : Stage} (tour : Tour g n st) (next : st.next g = .inl after) : Tour g (n + 1) after

/-- What has been followed from a node, the last target first. -/
def followedFrom (followed : List (String × String)) (id : String) : List String :=
  (followed.filter fun edge => edge.1 = id).map Prod.snd

/-- What has been followed from a node is a front of its targets, and what the path holds of it is the rest; nothing has
been followed from a node that has not been seen. -/
def Fronts (g : Graph) (s : PathSearch) (followed : List (String × String)) : Prop :=
  ∀ id, ∃ rest, g.targets id = (followedFrom followed id).reverse ++ rest ∧
    (∀ entry ∈ s.path, entry.1 = id → entry.2 = rest) ∧ (s.mark id = .unseen → followedFrom followed id = [])

/-- What every stage of a tour keeps. -/
structure Stage.Sound (g : Graph) (n : Nat) (st : Stage) : Prop where
  search : ∃ left, PathSearch.Sound g st.search left
  starts : ∀ id ∈ st.starts, g.hasNode id
  fronts : g.Fronts st.search st.followed
  enough : PathSearch.remaining g st.search ≤ g.searchSteps
  counted : n + PathSearch.remaining g st.search + st.starts.length ≤ g.searchSteps + g.nodes.length

variable {g : Graph} {s t : PathSearch} {left : List String} {followed : List (String × String)} {id target : String}
  {n : Nat} {st after : Stage}

theorem followedFrom_cons_self : followedFrom ((id, target) :: followed) id = target :: followedFrom followed id := by
  simp [followedFrom]

theorem followedFrom_cons_of_ne {other : String} (ne : id ≠ other) :
    followedFrom ((id, target) :: followed) other = followedFrom followed other := by
  simp [followedFrom, ne]

open PathSearch

/-- A search that holds less of its path, and has seen no less, keeps its fronts. -/
theorem Fronts.mono (fronts : g.Fronts s followed) (path : ∀ entry ∈ t.path, entry ∈ s.path)
    (seen : ∀ id, s.mark id ≠ .unseen → t.mark id ≠ .unseen) : g.Fronts t followed := by
  intro id
  obtain ⟨rest, split, held, fresh⟩ := fronts id
  exact ⟨rest, split, fun entry mem => held entry (path entry mem),
    fun unseen => fresh (Decidable.not_not.mp fun marked => seen id marked unseen)⟩

/-- A node that is seen for the first time comes on the path with all its targets. -/
theorem Fronts.push {path : List (String × List String)} {m : Mark} (fronts : g.Fronts ⟨path, s.marks⟩ followed)
    (unseen : s.mark id = .unseen) (seen : m ≠ .unseen) :
    g.Fronts ⟨(id, g.targets id) :: path, s.marks.set id m⟩ followed := by
  intro other
  obtain ⟨rest, split, held, fresh⟩ := fronts other
  refine ⟨rest, split, ?_, ?_⟩
  · intro entry mem named
    rcases List.mem_cons.mp mem with rfl | mem
    · obtain rfl : id = other := named
      rw [fresh unseen] at split
      exact split
    · exact held entry mem named
  · rw [mark_set]
    split
    · exact fun marked => absurd marked seen
    · exact fresh

/-- An edge is followed from the end of the path: one target more is in front, and one less is left. -/
theorem Fronts.follow {more : List String} {below : List (String × List String)}
    (fronts : g.Fronts s followed) (at_edge : s.path = (id, target :: more) :: below)
    (nodup : (s.path.map Prod.fst).Nodup) (seen : s.mark id ≠ .unseen) :
    g.Fronts ⟨(id, more) :: below, s.marks⟩ ((id, target) :: followed) := by
  intro other
  obtain ⟨rest, split, held, fresh⟩ := fronts other
  rw [at_edge] at held nodup
  by_cases same : id = other
  · subst same
    obtain rfl : target :: more = rest := held _ List.mem_cons_self rfl
    refine ⟨more, by simp [followedFrom_cons_self, split], ?_, fun unseen => absurd unseen seen⟩
    intro entry mem named
    rcases List.mem_cons.mp mem with rfl | mem
    · rfl
    · exact absurd (List.mem_map.mpr ⟨entry, mem, named⟩) (List.nodup_cons.mp nodup).1
  · rw [followedFrom_cons_of_ne same]
    refine ⟨rest, split, ?_, fresh⟩
    intro entry mem named
    rcases List.mem_cons.mp mem with rfl | mem
    · exact absurd named same
    · exact held entry (List.mem_cons_of_mem _ mem) named

/-- A step of a search keeps its fronts, with the edge that it follows. -/
theorem Fronts.advance (fronts : g.Fronts s followed) (sound : PathSearch.Sound g s left)
    (further : s.advance g = .further t) : g.Fronts t (s.ahead ++ followed) := by
  rcases at_node : s.path with _ | ⟨⟨id, _ | ⟨target, more⟩⟩, below⟩
  · simp [PathSearch.advance, at_node] at further
  · obtain ⟨-, -, seen⟩ := advance_further sound further
    simp only [PathSearch.advance, at_node, Progress.further.injEq] at further
    subst further
    rw [ahead, at_node]
    refine fronts.mono (fun entry mem => ?_) seen
    rw [at_node]
    exact List.mem_cons_of_mem _ mem
  · have on_path : s.mark id = .onPath := (sound.onPath_iff id).mpr (by simp [at_node])
    have on := fronts.follow at_node sound.path_nodup (by simp [on_path])
    rw [ahead, at_node]
    cases mark : s.mark target with
    | onPath => simp [PathSearch.advance, at_node, mark] at further
    | done =>
      simp only [PathSearch.advance, at_node, mark, Progress.further.injEq] at further
      subst further
      exact on
    | unseen =>
      simp only [PathSearch.advance, at_node, mark, Progress.further.injEq] at further
      subst further
      exact on.push mark (by simp)

namespace Stage

theorem sound_first : Sound g 0 (first g) where
  search := ⟨[], sound_start⟩
  starts id mem := mem_nodeIds_iff.mp (List.mem_mergeSort.mp mem)
  fronts id := ⟨g.targets id, by simp [first, followedFrom], by simp [first], fun _ => rfl⟩
  enough := remaining_start_le
  counted := by
    have once : (g.nodeIds.mergeSort fun a b => !decide (b < a)).length ≤ g.nodes.length := by
      rw [List.length_mergeSort, ← List.length_map (f := Node.id)]
      exact (nodup_eraseDups _).length_le_of_subset fun id mem => List.mem_eraseDups.mp mem
    have start := remaining_start_le (g := g)
    simp only [first]
    omega

/-- Where a search begins anew, nothing is on its path, and it takes the next node. -/
theorem Sound.begin {rest : List String} (sound : Sound g n ⟨s, id :: rest, followed⟩) (ended : s.path = []) :
    Sound g (n + 1) ⟨s.enter g id, rest, followed⟩ := by
  obtain ⟨left, search⟩ : ∃ left, PathSearch.Sound g s left := sound.search
  obtain ⟨entered, same, -⟩ := enter_sound search ended (sound.starts id List.mem_cons_self)
  refine ⟨⟨left, entered⟩, fun other mem => sound.starts other (List.mem_cons_of_mem _ mem), ?_, ?_, ?_⟩
  · cases mark : s.mark id with
    | unseen =>
      have none : g.Fronts ⟨[], s.marks⟩ followed := sound.fronts.mono (by simp) fun _ marked => marked
      simp only [enter, mark]
      exact none.push mark (by simp)
    | onPath | done =>
      simp only [enter, mark]
      exact sound.fronts
  · rw [same]
    exact sound.enough
  · have counted := sound.counted
    simp only [List.length_cons] at counted ⊢
    omega

theorem Sound.next (sound : Sound g n st) (next : st.next g = .inl after) : Sound g (n + 1) after := by
  obtain ⟨search, starts, followed⟩ := st
  rw [Stage.next] at next
  cases step : search.advance g with
  | closed source target =>
    rw [step] at next
    cases next
  | finished =>
    rw [step] at next
    cases starts with
    | nil => cases next
    | cons id rest =>
      cases next
      exact sound.begin (path_eq_nil_of_finished step)
  | further t =>
    rw [step] at next
    cases next
    obtain ⟨left, held⟩ := sound.search
    obtain ⟨⟨more, further⟩, fewer, -⟩ := advance_further held step
    have enough := sound.enough
    have counted := sound.counted
    refine ⟨⟨_, further⟩, sound.starts, sound.fronts.advance held step, ?_, ?_⟩ <;> dsimp only at * <;> omega

end Stage

theorem Tour.sound (tour : Tour g n st) : st.Sound g n := by
  induction tour with
  | first => exact Stage.sound_first
  | step _ next ih => exact ih.next next

/-! ### No edge twice -/

theorem count_followed (followed : List (String × String)) (id target : String) :
    followed.count (id, target) = (followedFrom followed id).count target := by
  induction followed with
  | nil => rfl
  | cons edge followed ih =>
    obtain ⟨source, aim⟩ := edge
    by_cases same : source = id
    · subst same
      rw [followedFrom_cons_self, List.count_cons, List.count_cons, ih]
      simp
    · rw [followedFrom_cons_of_ne same, List.count_cons_of_ne (by simp [same]), ih]

theorem count_links (node : g.hasNode id) (target : String) :
    g.links.count (id, target) = (g.targets id).count target := by
  rw [links, targets, outgoing, List.count, List.countP_map, List.countP_filter, List.filter_map, List.filter_filter,
    List.count, List.countP_map, List.countP_filter]
  refine List.countP_congr fun edge _ => ?_
  simp only [Function.comp_apply, beq_iff_eq, Prod.mk.injEq, Bool.and_eq_true, decide_eq_true_eq]
  grind

/-- The edge that is followed next is the first of what is left of its source. -/
theorem count_ahead_le (target : String) {rest : List String} (held : ∀ entry ∈ s.path, entry.1 = id → entry.2 = rest) :
    s.ahead.count (id, target) ≤ rest.count target := by
  rw [ahead]
  split
  · rename_i source aim more below at_edge
    by_cases same : source = id
    · subst same
      obtain rfl : aim :: more = rest := held (source, aim :: more) (by simp [at_edge]) rfl
      simp [List.count_cons]
    · simp [same]
  · simp

/-- What has been followed and what is followed next are edges between nodes, none of them more often than it is
there. -/
theorem Stage.Sound.subperm (sound : st.Sound g n) : (st.search.ahead ++ st.followed).Subperm g.links := by
  refine List.subperm_ext_iff.mpr ?_
  rintro ⟨id, target⟩ -
  obtain ⟨left, search⟩ := sound.search
  obtain ⟨rest, split, held, fresh⟩ := sound.fronts id
  rw [List.count_append, count_followed st.followed]
  by_cases unseen : st.search.mark id = .unseen
  · have off_path (entry : String × List String) (mem : entry ∈ st.search.path) (named : entry.1 = id) :
        entry.2 = [] := by
      have on_path := (search.onPath_iff id).mpr (List.mem_map.mpr ⟨entry, mem, named⟩)
      rw [unseen] at on_path
      cases on_path
    have none := count_ahead_le target off_path
    rw [fresh unseen]
    simp only [List.count_nil] at none ⊢
    omega
  · have next := count_ahead_le target held
    rw [count_links (search.known id unseen), split, List.count_append, List.count_reverse]
    omega

/-! ### The way to the end -/

/-- A run with enough steps before it goes on with the tour until the path is empty or closed. -/
theorem Tour.run {starts : List String} (fuel : Nat) (tour : Tour g n ⟨s, starts, followed⟩)
    (enough : remaining g s ≤ fuel) :
    (∀ t, PathSearch.run g fuel s = .ok t → t.path = [] ∧ ∃ n followed, Tour g n ⟨t, starts, followed⟩) ∧
      ∀ edge, PathSearch.run g fuel s = .error edge → ∃ n st, Tour g n st ∧ st.next g = .inr (some edge) := by
  induction fuel generalizing n s followed with
  | zero =>
    constructor <;> intro result ran <;> cases ran
    exact ⟨path_eq_nil_of_remaining (Nat.le_zero.mp enough), n, followed, tour⟩
  | succ fuel ih =>
    rw [PathSearch.run]
    cases step : s.advance g with
    | further t =>
      obtain ⟨left, search⟩ : ∃ left, PathSearch.Sound g s left := tour.sound.search
      obtain ⟨-, fewer, -⟩ := advance_further search step
      exact ih (tour.step (by rw [Stage.next, step])) (by omega)
    | closed source target =>
      constructor <;> intro result ran <;> cases ran
      exact ⟨n, _, tour, by rw [Stage.next, step]⟩
    | finished =>
      constructor <;> intro result ran <;> cases ran
      exact ⟨path_eq_nil_of_finished step, n, followed, tour⟩

/-- What searches from one node after the other come to. -/
def outcome : Except (String × String) PathSearch → Option (String × String)
  | .ok _ => none
  | .error edge => some edge

/-- The searches from the nodes that are left bring the tour to its end. -/
theorem Tour.searchFrom {starts : List String} (tour : Tour g n ⟨s, starts, followed⟩) (ended : s.path = []) :
    ∃ n last, Tour g n last ∧ last.next g = .inr (outcome (g.searchFrom s starts)) := by
  have finished {s : PathSearch} (ended : s.path = []) : s.advance g = .finished := by rw [PathSearch.advance, ended]
  induction starts generalizing n s followed with
  | nil => exact ⟨n, _, tour, by rw [Stage.next, finished ended]; rfl⟩
  | cons id rest ih =>
    have begun : Tour g (n + 1) ⟨s.enter g id, rest, followed⟩ := tour.step (by rw [Stage.next, finished ended])
    obtain ⟨through, closed⟩ := begun.run g.searchSteps begun.sound.enough
    rw [Graph.searchFrom]
    cases ran : (s.enter g id).run g g.searchSteps with
    | error edge => exact closed edge ran
    | ok t =>
      obtain ⟨ended, n, followed, tour⟩ := through t ran
      exact ih tour ended

theorem closingEdge?_eq (g : Graph) :
    g.closingEdge? = outcome (g.searchFrom ⟨[], []⟩ (g.nodeIds.mergeSort fun a b => !decide (b < a))) := by
  rw [closingEdge?]
  cases g.searchFrom ⟨[], []⟩ (g.nodeIds.mergeSort fun a b => !decide (b < a)) <;> rfl

/-- The search ends, with the edge that it reports or with none, after no more steps than twice the nodes and once the
edges of the graph, and one. At every stage a node is marked as on the path just if it is there, each once, and what has
been followed, and what is followed next, are edges between nodes, none of them twice. An edge that is reported is
there, and edges between nodes lead back from the node that is named to where the edge leaves. -/
theorem tour_ends_truly (g : Graph) :
    (∃ n last, Tour g n last ∧ last.next g = .inr g.closingEdge?) ∧
      (∀ n st, Tour g n st → n ≤ 2 * g.nodes.length + g.edges.length + 1 ∧
        (st.search.ahead ++ st.followed).Subperm g.links ∧ (st.search.path.map Prod.fst).Nodup ∧
          ∀ id, st.search.mark id = .onPath ↔ id ∈ st.search.path.map Prod.fst) ∧
      ∀ defect ∈ g.cycles, ∃ source target, defect = .cycle source target ∧ defect.nodeId? = some target ∧
        g.closingEdge? = some (source, target) ∧ g.Joins source target ∧
          Relation.ReflTransGen g.Joins target source := by
  refine ⟨?_, fun n st tour => ?_, fun defect mem => ?_⟩
  · rw [closingEdge?_eq]
    exact Tour.searchFrom .first rfl
  · obtain ⟨left, search⟩ := tour.sound.search
    have counted := tour.sound.counted
    rw [searchSteps] at counted
    exact ⟨by omega, tour.sound.subperm, search.path_nodup, search.onPath_iff⟩
  · rw [cycles] at mem
    cases found : g.closingEdge? with
    | none =>
      rw [found] at mem
      cases mem
    | some edge =>
      rw [found] at mem
      obtain rfl := List.mem_singleton.mp mem
      exact ⟨edge.1, edge.2, rfl, rfl, rfl, closingEdge?_sound found⟩

end TriggerFlow.Graph
