import TriggerFlow.Proofs.Graph.Valid
import TriggerFlow.Run.Desk
import Mathlib.Data.List.Chain
import Mathlib.Data.List.Destutter

/-!
# The trail of a run

A run of a graph leaves two lists behind: the entries of its log and the actions that it has sent out. Here
is what these lists can be, step by step along the edges of the graph, and what follows for them as a whole.
Nothing is said of how runs are driven.
-/

namespace TriggerFlow

/-- The branch that an entry of a condition has recorded. -/
def LogEntry.branch? (entry : LogEntry) : Option Branch :=
  match entry.data.bind fun data => Ordered.get? data "result" with
  | some (.bool b) => some (.ofBool b)
  | _ => none

/-- The action of a node that is sent out. -/
def Node.ordinary? (node : Node) : Option Action :=
  match node.task with
  | .action a => if a.kind.parks then none else some a
  | _ => none

/-- The action that a graph has sent out at a node. -/
def Graph.ordinary? (g : Graph) (id : String) : Option Action := (g.node? id).bind Node.ordinary?

/-- The edge from the node of an entry to another node, which at a condition is the one that was recorded. -/
def Graph.Leads (g : Graph) (entry : LogEntry) (id : String) : Prop :=
  ∃ edge ∈ g.edges, edge.source = entry.nodeId ∧ edge.target = id ∧
    ∀ node expression, g.node? entry.nodeId = some node → node.task = .condition expression →
      ∃ branch, entry.branch? = some branch ∧ edge.branch = some branch

/-- A call is the one that an entry tells of. -/
def Graph.TellsOf (g : Graph) (call : Run.Sending) (entry : LogEntry) : Prop :=
  call.nodeId = entry.nodeId ∧ ∃ a, g.ordinary? entry.nodeId = some a ∧ call.call.kind = a.kind

namespace Run

/-- Where a run is on its way through a graph. -/
inductive Stage where
  | unbegun
  /-- About to visit a node. -/
  | ahead (id : String)
  /-- Parked at a node. -/
  | parked (id : String)
  /-- At a node that has failed. -/
  | stopped (id : String)
  /-- At an end node, with everything done. -/
  | ended (id : String)
  deriving DecidableEq, Repr

namespace Stage

def status : Stage → Status
  | unbegun => .pending
  | ahead _ => .running
  | parked _ => .waiting
  | stopped _ => .failed
  | ended _ => .completed

def nodeId : Stage → Option String
  | unbegun => none
  | ahead id | parked id | stopped id | ended id => some id

/-- A bound for the rank of everything that has been visited before. -/
def height (rank : String → Nat) : Stage → Nat
  | unbegun => 0
  | ahead id => rank id + 1
  | parked id | stopped id | ended id => rank id

end Stage

/-- Where a run can be after a visit of a node that has left an entry. -/
inductive Comes (g : Graph) (node : Node) (entry : LogEntry) : Stage → Prop where
  | onto {id : String} (leads : g.Leads entry id) (goes : node.task ≠ .finish) : Comes g node entry (.ahead id)
  | waits {a : Action} (kind : node.task = .action a) (parks : a.kind.parks = true) :
    Comes g node entry (.parked node.id)
  | stops (goes : node.task ≠ .finish) : Comes g node entry (.stopped node.id)
  | ends (kind : node.task = .finish) : Comes g node entry (.ended node.id)

/-- What a visit of a node leaves behind: one entry, and one call if the node is an ordinary action. -/
structure Turn (g : Graph) (node : Node) (entry : LogEntry) (calls : List Sending) (stage : Stage) : Prop where
  own : entry.nodeId = node.id
  calls : match node.ordinary? with
    | some a => ∃ call, calls = [call] ∧ call.nodeId = node.id ∧ call.call.kind = a.kind
    | none => calls = []
  comes : Comes g node entry stage

namespace Turn

variable {g : Graph} {node : Node} {entry : LogEntry} {calls : List Sending} {stage : Stage}

theorem call_own (turn : Turn g node entry calls stage) {call : Sending} (mem : call ∈ calls) :
    call.nodeId = node.id := by
  have answers := turn.calls
  split at answers
  · obtain ⟨_, rfl, own, -⟩ := answers
    rwa [List.mem_singleton.mp mem]
  · simp [answers] at mem

/-- A visit leads down, or leaves the run where it is. -/
theorem height_le {rank : String → Nat} (ranking : g.Ranking rank)
    (turn : Turn g node entry calls stage) : stage.height rank ≤ rank node.id := by
  cases turn.comes with
  | onto leads =>
    obtain ⟨edge, mem, source, rfl, -⟩ := leads
    exact turn.own ▸ source ▸ ranking.down edge mem
  | waits | stops | ends => exact le_refl (rank node.id)

end Turn

/-- What a run has left behind when it has come to a stage. -/
inductive Trail (g : Graph) : List LogEntry → List Sending → Stage → Prop where
  | unbegun : Trail g [] [] .unbegun
  | entered {id : String} (entrance : g.Entrance id) : Trail g [] [] (.ahead id)
  | visited {entries calls id node entry new stage} (trail : Trail g entries calls (.ahead id))
    (found : g.node? id = some node) (turn : Turn g node entry new stage) :
    Trail g (entries ++ [entry]) (calls ++ new) stage
  | woken {entries calls id notes} {edge : Edge} (trail : Trail g entries calls (.parked id))
    (short : notes.length ≤ 1) (own : ∀ entry ∈ notes, entry.nodeId = id) (mem : edge ∈ g.edges)
    (source : edge.source = id) : Trail g (entries ++ notes) calls (.ahead edge.target)
  | overdue {entries calls id entry} (trail : Trail g entries calls (.parked id))
    (own : entry.nodeId = id) : Trail g (entries ++ [entry]) calls (.stopped id)

namespace Trail

variable {g : Graph} {entries : List LogEntry} {calls : List Sending} {stage : Stage} {id : String}

/-- Runs are parked at actions that park them. -/
theorem parks (trail : Trail g entries calls (.parked id)) :
    ∃ node a, g.node? id = some node ∧ node.task = .action a ∧ a.kind.parks = true := by
  generalize at_stage : Stage.parked id = stage at trail
  cases trail with
  | visited trail found turn =>
    cases turn.comes with
    | waits kind parks =>
      cases at_stage
      rw [(Graph.mem_of_node? found).2]
      exact ⟨_, _, found, kind, parks⟩
    | _ => cases at_stage
  | _ => cases at_stage

/-- A run that has not begun has left nothing behind. -/
theorem eq_nil_of_unbegun (trail : Trail g entries calls .unbegun) : entries = [] ∧ calls = [] := by
  generalize at_stage : Stage.unbegun = stage at trail
  cases trail with
  | unbegun => exact ⟨rfl, rfl⟩
  | visited trail found turn => cases turn.comes <;> cases at_stage
  | _ => cases at_stage

/-- The way ahead leads along an edge. -/
theorem exists_edge (trail : Trail g entries calls (.ahead id)) : ∃ edge ∈ g.edges, edge.target = id := by
  generalize at_stage : Stage.ahead id = stage at trail
  cases trail with
  | entered entrance =>
    cases at_stage
    obtain ⟨node, _, edge, -, leads, target⟩ := entrance
    have out : edge ∈ g.outgoing node.id := by simp [leads]
    exact ⟨edge, (Graph.mem_edges_of_outgoing out).1, target⟩
  | visited trail found turn =>
    cases turn.comes with
    | onto leads =>
      cases at_stage
      obtain ⟨edge, mem, -, target, -⟩ := leads
      exact ⟨edge, mem, target⟩
    | _ => cases at_stage
  | woken trail short own mem =>
    cases at_stage
    exact ⟨_, mem, rfl⟩
  | _ => cases at_stage

/-- How the last entry of a trail fits the stage that it has come to. -/
def Fits (g : Graph) (entries : List LogEntry) : Stage → Prop
  | .unbegun => entries = []
  | .ahead id => (entries = [] ∧ g.Entrance id) ∨ ∃ entry, entries.getLast? = some entry ∧ g.Leads entry id
  | .parked id | .stopped id | .ended id => ∃ entry, entries.getLast? = some entry ∧ entry.nodeId = id

theorem fits (trail : Trail g entries calls stage) : Fits g entries stage := by
  induction trail with
  | unbegun => rfl
  | entered entrance => exact .inl ⟨rfl, entrance⟩
  | @visited entries _ id node entry _ stage trail found turn ih =>
    have last : (entries ++ [entry]).getLast? = some entry := List.getLast?_concat
    cases turn.comes with
    | onto leads => exact .inr ⟨entry, last, leads⟩
    | waits | stops | ends => exact ⟨entry, last, turn.own⟩
  | @woken entries _ id notes edge trail short own mem source ih =>
    obtain ⟨node, a, found, kind, -⟩ := trail.parks
    have leads {entry : LogEntry} (own : entry.nodeId = id) : g.Leads entry edge.target := by
      refine ⟨edge, mem, source.trans own.symm, rfl, ?_⟩
      intro other expression found' kind'
      rw [own, found] at found'
      cases found'
      cases kind.symm.trans kind'
    obtain ⟨entry, last, here⟩ := ih
    match notes, short with
    | [], _ => exact .inr ⟨entry, by simpa using last, leads here⟩
    | [note], _ => exact .inr ⟨note, List.getLast?_concat, leads (own note (by simp))⟩
  | overdue trail own ih => exact ⟨_, List.getLast?_concat, own⟩

/-- Every entry is added at the node of the stage that the run has come to. -/
theorem log_induction {motive : List LogEntry → Prop} (nil : motive [])
    (concat : ∀ {entries calls stage} (entry : LogEntry), Trail g entries calls stage →
      stage.nodeId = some entry.nodeId → motive entries → motive (entries ++ [entry]))
    (trail : Trail g entries calls stage) : motive entries := by
  induction trail with
  | unbegun | entered => exact nil
  | visited trail found turn ih =>
    refine concat _ trail ?_ ih
    rw [turn.own, (Graph.mem_of_node? found).2]
    rfl
  | @woken _ _ _ notes _ trail short own _ _ ih =>
    match notes, short with
    | [], _ => simpa using ih
    | [note], _ => exact concat note trail (by rw [own note (by simp)]; rfl) ih
  | overdue trail own ih => exact concat _ trail (by rw [own]; rfl) ih

/-- One entry follows another at the same node, or along the edge that the first one has recorded. -/
def Follows (g : Graph) (entry next : LogEntry) : Prop :=
  entry.nodeId = next.nodeId ∨ g.Leads entry next.nodeId

/-- The log follows the edges of the graph, and at every condition the branch that was recorded. -/
theorem isChain (trail : Trail g entries calls stage) : entries.IsChain (Follows g) := by
  refine trail.log_induction List.isChain_nil fun {entries _ stage} entry trail here chain => ?_
  refine List.isChain_append.mpr ⟨chain, List.isChain_singleton _, ?_⟩
  intro last mem next head
  cases head
  have fits := trail.fits
  cases stage with
  | unbegun => cases here
  | ahead id =>
    cases here
    rcases fits with ⟨none, -⟩ | ⟨other, found, leads⟩
    · simp [none] at mem
    · exact .inr (Option.some.inj (found.symm.trans mem) ▸ leads)
  | parked id | stopped id | ended id =>
    obtain ⟨other, found, own⟩ := fits
    exact .inl ((Option.some.inj (found.symm.trans mem) ▸ own).trans (Option.some.inj here))

/-- The first entry is that of the node that the trigger leads to. -/
theorem entrance_of_head (trail : Trail g entries calls stage) :
    ∀ entry ∈ entries.head?, g.Entrance entry.nodeId := by
  refine trail.log_induction (motive := fun entries => ∀ entry ∈ entries.head?, g.Entrance entry.nodeId)
    (by simp) fun {entries _ stage} entry trail here first => ?_
  cases entries with
  | cons head rest => exact first
  | nil =>
    intro x mem
    cases mem
    have fits := trail.fits
    cases stage with
    | unbegun => cases here
    | ahead id =>
      cases here
      rcases fits with ⟨-, entrance⟩ | ⟨other, found, -⟩
      · exact entrance
      · simp at found
    | parked id | stopped id | ended id =>
      obtain ⟨other, found, -⟩ := fits
      simp at found

/-- The calls answer one by one to the entries of the ordinary actions. -/
theorem calls_tellOf (trail : Trail g entries calls stage) : List.Forall₂ g.TellsOf calls
    (entries.filter fun entry => (g.ordinary? entry.nodeId).isSome) := by
  have quiet {entries calls id} (trail : Trail g entries calls (.parked id)) : g.ordinary? id = none := by
    obtain ⟨node, a, found, kind, parks⟩ := trail.parks
    simp [Graph.ordinary?, found, Node.ordinary?, kind, parks]
  induction trail with
  | unbegun | entered => exact .nil
  | @visited _ _ id node entry new _ trail found turn ih =>
    have here : entry.nodeId = id := turn.own.trans (Graph.mem_of_node? found).2
    have same : g.ordinary? id = node.ordinary? := by rw [Graph.ordinary?, found]; rfl
    have answers := turn.calls
    rw [List.filter_append]
    cases sent : node.ordinary? with
    | none =>
      rw [sent] at answers
      simpa [here, same, sent, answers] using ih
    | some a =>
      rw [sent] at answers
      obtain ⟨call, rfl, own, kind⟩ := answers
      have tells : g.TellsOf call entry :=
        ⟨own.trans turn.own.symm, a, by rw [here, same, sent], kind⟩
      simpa [here, same, sent] using List.rel_append ih (.cons tells .nil)
  | @woken _ _ _ notes _ trail short own mem source ih =>
    rw [List.filter_append, (List.filter_eq_nil_iff (l := notes)).mpr, List.append_nil]
    · exact ih
    · intro entry mem
      simp [own entry mem, quiet trail]
  | overdue trail own ih => simpa [own, quiet trail] using ih

theorem calls_nodeId (trail : Trail g entries calls stage) : calls.map Sending.nodeId =
    (entries.filter fun entry => (g.ordinary? entry.nodeId).isSome).map LogEntry.nodeId := by
  rw [← List.forall₂_eq_eq_eq, List.forall₂_map_left_iff, List.forall₂_map_right_iff]
  exact trail.calls_tellOf.imp fun _ _ tells => tells.1

/-- Whatever has been logged or sent out belongs to a rank that the run has passed. -/
theorem height_le {rank : String → Nat} (ranking : g.Ranking rank) (trail : Trail g entries calls stage) :
    (∀ entry ∈ entries, stage.height rank ≤ rank entry.nodeId) ∧
      ∀ call ∈ calls, stage.height rank ≤ rank call.nodeId := by
  induction trail with
  | unbegun | entered => simp
  | @visited _ _ id node entry new stage trail found turn ih =>
    have down := turn.height_le ranking
    rw [(Graph.mem_of_node? found).2] at down
    constructor
    · intro x mem
      rcases List.mem_append.mp mem with mem | mem
      · exact down.trans ((Nat.le_succ _).trans (ih.1 x mem))
      · rw [List.mem_singleton.mp mem, turn.own, (Graph.mem_of_node? found).2]
        exact down
    · intro call mem
      rcases List.mem_append.mp mem with mem | mem
      · exact down.trans ((Nat.le_succ _).trans (ih.2 call mem))
      · rw [turn.call_own mem, (Graph.mem_of_node? found).2]
        exact down
  | @woken _ _ id notes edge trail short own mem source ih =>
    have down : rank edge.target + 1 ≤ rank id := source ▸ ranking.down edge mem
    refine ⟨?_, fun call mem => down.trans (ih.2 call mem)⟩
    intro x mem
    rcases List.mem_append.mp mem with mem | mem
    · exact down.trans (ih.1 x mem)
    · rw [own x mem]
      exact down
  | @overdue _ _ id entry trail own ih =>
    refine ⟨?_, ih.2⟩
    intro x mem
    rcases List.mem_append.mp mem with mem | mem
    · exact ih.1 x mem
    · rw [List.mem_singleton.mp mem, own]
      exact le_refl (rank id)

/-- No node is sent out twice. -/
theorem calls_nodup {rank : String → Nat} (ranking : g.Ranking rank) (trail : Trail g entries calls stage) :
    (calls.map Sending.nodeId).Nodup := by
  induction trail with
  | unbegun | entered => exact List.nodup_nil
  | @visited _ calls id node entry new _ trail found turn ih =>
    have answers := turn.calls
    cases sent : node.ordinary? with
    | none =>
      rw [sent] at answers
      simpa [answers] using ih
    | some a =>
      rw [sent] at answers
      obtain ⟨call, rfl, own, -⟩ := answers
      rw [List.map_append, List.nodup_append]
      refine ⟨ih, List.nodup_singleton _, ?_⟩
      intro old mem _ here same
      obtain ⟨other, sent, rfl⟩ := List.mem_map.mp mem
      have above : rank id + 1 ≤ rank other.nodeId := (trail.height_le ranking).2 other sent
      rw [same, List.mem_singleton.mp here, own, (Graph.mem_of_node? found).2] at above
      exact absurd above (Nat.not_succ_le_self _)
  | woken _ _ _ _ _ ih => exact ih
  | overdue _ _ ih => exact ih

/-- What is sent out later belongs to nodes that have not been logged before. -/
theorem fresh_calls {rank : String → Nat} (ranking : g.Ranking rank) {entries' : List LogEntry}
    {more : List Sending} {stage' : Stage} (trail : Trail g entries calls stage)
    (later : Trail g entries' (calls ++ more) stage') :
    ∀ call ∈ more, ∀ entry ∈ entries, entry.nodeId ≠ call.nodeId := by
  intro call mem entry logged here
  have ordinary : (g.ordinary? call.nodeId).isSome := by
    have sent : call.nodeId ∈ (calls ++ more).map Sending.nodeId := by simp [List.mem_map_of_mem mem]
    rw [later.calls_nodeId] at sent
    obtain ⟨other, mem, same⟩ := List.mem_map.mp sent
    exact same ▸ (List.mem_filter.mp mem).2
  have sent : entry.nodeId ∈ calls.map Sending.nodeId := by
    rw [trail.calls_nodeId]
    exact List.mem_map_of_mem (List.mem_filter.mpr ⟨logged, here ▸ ordinary⟩)
  have once := later.calls_nodup ranking
  rw [List.map_append, List.nodup_append] at once
  exact once.2.2 _ sent _ (List.mem_map_of_mem mem) here

/-- A run is parked only once at a node. -/
theorem eq_nil_of_parked {rank : String → Nat} (ranking : g.Ranking rank) {more : List LogEntry}
    {calls' : List Sending} (trail : Trail g entries calls (.parked id))
    (later : Trail g (entries ++ more) calls' (.parked id)) : more = [] := by
  obtain ⟨old, last, own⟩ := trail.fits
  generalize all : entries ++ more = log at later
  generalize at_stage : Stage.parked id = stage at later
  cases later with
  | @visited before _ n node entry _ _ earlier found turn =>
    have here : n = id := by
      cases turn.comes with
      | waits =>
        cases at_stage
        exact (Graph.mem_of_node? found).2.symm
      | _ => cases at_stage
    rcases List.eq_nil_or_concat more with none | ⟨init, final, rfl⟩
    · exact none
    rw [List.concat_eq_append, ← List.append_assoc] at all
    have before_eq := (List.append_inj' all rfl).1
    have above := (earlier.height_le ranking).1 old (by
      rw [← before_eq]
      exact List.mem_append_left _ (List.mem_of_getLast? last))
    rw [own, here] at above
    exact absurd above (Nat.not_succ_le_self _)
  | _ => cases at_stage

/-- A run that is not at its end has last logged something at another kind of node. -/
theorem last_goes (trail : Trail g entries calls stage) (unfinished : stage.status ≠ .completed)
    {entry : LogEntry} (last : entries.getLast? = some entry) {node : Node}
    (found : g.node? entry.nodeId = some node) : node.task ≠ .finish := by
  have waits {entries calls id} (trail : Trail g entries calls (.parked id))
      (here : entry.nodeId = id) : node.task ≠ .finish := by
    obtain ⟨other, a, found', kind, -⟩ := trail.parks
    rw [here, found'] at found
    cases found
    simp [kind]
  cases trail with
  | unbegun | entered => cases last
  | visited trail found' turn =>
    rw [List.getLast?_concat] at last
    cases last
    rw [turn.own, (Graph.mem_of_node? found').2, found'] at found
    cases found
    cases turn.comes with
    | onto _ goes => exact goes
    | waits kind => simp [kind]
    | stops goes => exact goes
    | ends => exact absurd rfl unfinished
  | @woken _ _ _ notes _ trail short own =>
    match notes, short with
    | [], _ =>
      obtain ⟨other, last', here⟩ := trail.fits
      rw [List.append_nil, last'] at last
      cases last
      exact waits trail here
    | [note], _ =>
      rw [List.getLast?_concat] at last
      cases last
      exact waits trail (own _ (by simp))
  | overdue trail own =>
    rw [List.getLast?_concat] at last
    cases last
    exact waits trail own

/-- The log ends at an end node exactly if the run has come to its end. -/
theorem ended_iff (trail : Trail g entries calls stage) : stage.status = .completed ↔
    ∃ entry node, entries.getLast? = some entry ∧ g.node? entry.nodeId = some node ∧
      node.task = .finish := by
  constructor
  · intro completed
    cases trail with
    | visited trail found turn =>
      have here := turn.own.trans (Graph.mem_of_node? found).2
      cases turn.comes with
      | ends kind => exact ⟨_, _, List.getLast?_concat, here ▸ found, kind⟩
      | _ => cases completed
    | _ => cases completed
  · rintro ⟨entry, node, last, found, kind⟩
    by_contra unfinished
    exact trail.last_goes unfinished last found kind

end Trail

end Run

end TriggerFlow
