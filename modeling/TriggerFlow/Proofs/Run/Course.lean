import TriggerFlow.Proofs.Run.Ledger
import TriggerFlow.Proofs.Run.Trail

/-!
# What the record of a run tells

The record of a run is on its course if its log is a trail of its graph, as far as the state and the node of
the record say, or such a trail with one entry at the end that closes it early. What the whole log shows
follows from this.
-/

namespace TriggerFlow.Run

/-- An entry that closes the log of a run that was cancelled, or that a failure of its own has ended. -/
inductive Closes (e : Execution) (entry : LogEntry) : Prop where
  | cancel (status : e.status = .cancelled) (action : entry.action = "Cancel")
    (outcome : entry.outcome = .warning) : Closes e entry
  | engine (status : e.status = .failed) (action : entry.action = "Engine")
    (outcome : entry.outcome = .error) (message : e.error = some entry.message) : Closes e entry

/-- The record of a run of a graph, with the calls that were sent out for it. -/
inductive Course (g : Graph) (e : Execution) (calls : List Sending) : Prop where
  | going {stage : Stage} (trail : Trail g e.log calls stage) (status : e.status = stage.status)
    (nodeId : e.nodeId = stage.nodeId) : Course g e calls
  | closed {body : List LogEntry} {closing : LogEntry} {stage : Stage} (trail : Trail g body calls stage)
    (unfinished : stage.status ≠ .completed) (log : e.log = body ++ [closing])
    (closes : Closes e closing) : Course g e calls

/-- Whether a run has come to an end is a matter of its state. -/
theorem lives_of_status {e : Execution} {status : Status} (here : e.status = status)
    (lives : status.isTerminal = false) : e.isTerminal = false := by
  rw [Execution.isTerminal, here, lives]

namespace Course

variable {g : Graph} {e e' : Execution} {calls : List Sending}

/-- A run that has not ended is on its way. -/
theorem exists_trail (course : Course g e calls) (lives : e.isTerminal = false) :
    ∃ stage, Trail g e.log calls stage ∧ e.status = stage.status ∧ e.nodeId = stage.nodeId := by
  cases course with
  | going trail status nodeId => exact ⟨_, trail, status, nodeId⟩
  | closed _ _ _ closes =>
    cases closes with
    | cancel status => simp [Execution.isTerminal, status, Status.isTerminal] at lives
    | engine status => simp [Execution.isTerminal, status, Status.isTerminal] at lives

/-- Up to an entry that closes it, the log is a trail. -/
theorem exists_body (course : Course g e calls) : ∃ body stage, Trail g body calls stage := by
  cases course with
  | going trail => exact ⟨_, _, trail⟩
  | closed trail => exact ⟨_, _, trail⟩

theorem pending (course : Course g e calls) (status : e.status = .pending) :
    Trail g e.log calls .unbegun ∧ e.nodeId = none := by
  obtain ⟨stage, trail, here, nodeId⟩ := course.exists_trail (lives_of_status status rfl)
  cases stage with
  | unbegun => exact ⟨trail, nodeId⟩
  | _ => cases status.symm.trans here

theorem running (course : Course g e calls) (status : e.status = .running) :
    ∃ id, Trail g e.log calls (.ahead id) ∧ e.nodeId = some id := by
  obtain ⟨stage, trail, here, nodeId⟩ := course.exists_trail (lives_of_status status rfl)
  cases stage with
  | ahead id => exact ⟨id, trail, nodeId⟩
  | _ => cases status.symm.trans here

theorem waiting (course : Course g e calls) (status : e.status = .waiting) :
    ∃ id, Trail g e.log calls (.parked id) ∧ e.nodeId = some id := by
  obtain ⟨stage, trail, here, nodeId⟩ := course.exists_trail (lives_of_status status rfl)
  cases stage with
  | parked id => exact ⟨id, trail, nodeId⟩
  | _ => cases status.symm.trans here

/-- A completed run is at an end node. -/
theorem completed (course : Course g e calls) (status : e.status = .completed) :
    ∃ node, e.nodeId = some node.id ∧ g.node? node.id = some node ∧ node.task = .finish := by
  cases course with
  | @going stage trail here nodeId =>
    obtain ⟨entry, node, last, found, kind⟩ := trail.ended_iff.mp (here.symm.trans status)
    have fits := trail.fits
    cases stage with
    | ended id =>
      obtain ⟨other, last', rfl⟩ := fits
      cases last.symm.trans last'
      rw [← (Graph.mem_of_node? found).2] at nodeId found
      exact ⟨node, nodeId, found, kind⟩
    | _ => cases here.symm.trans status
  | closed _ _ _ closes =>
    cases closes with
    | cancel here => cases status.symm.trans here
    | engine here => cases status.symm.trans here

theorem cancelledAt (course : Course g e calls) (lives : e.isTerminal = false) (ended noted : Instant) :
    Course g (cancelledAt e ended noted) calls := by
  obtain ⟨stage, trail, status, -⟩ := course.exists_trail lives
  refine .closed trail ?_ rfl (.cancel rfl rfl rfl)
  intro completed
  rw [Execution.isTerminal, status, completed] at lives
  cases lives

end Course

end TriggerFlow.Run

/-!
## The path that a log shows

Without an entry that closes it early, and with neighbours of one node taken together, the log of a run shows
the path that the run has taken through its graph.
-/

/-- If neighbours that differ are related, then so are the neighbours that remain when equal ones are taken
together, and the ends stay as they are. -/
theorem List.destutter'_path {α : Type} [DecidableEq α] {R : α → α → Prop} : ∀ (l : List α) {a : α},
    (a :: l).IsChain (fun x y => x = y ∨ R x y) → (l.destutter' (· ≠ ·) a).IsChain R ∧
      (l.destutter' (· ≠ ·) a).head? = some a ∧ (l.destutter' (· ≠ ·) a).getLast? = (a :: l).getLast?
  | [], a, _ => ⟨List.isChain_singleton a, rfl, rfl⟩
  | b :: l, a, chain => by
    obtain ⟨step, rest⟩ := List.isChain_cons_cons.mp chain
    obtain ⟨related, first, last⟩ := List.destutter'_path l rest
    by_cases same : a = b
    · subst same
      rw [List.destutter'_cons_neg _ (by simp)]
      exact ⟨related, first, last.trans List.getLast?_cons_cons.symm⟩
    · rw [List.destutter'_cons_pos _ same]
      refine ⟨?_, rfl, ?_⟩
      · refine List.isChain_cons.mpr ⟨?_, related⟩
        intro next head
        cases first.symm.trans head
        exact step.resolve_left same
      · rw [List.getLast?_cons_cons, ← last]
        exact List.getLast?_cons_of_ne_nil (List.destutter'_ne_nil l _)

namespace TriggerFlow.Run

variable {g : Graph} {e : Execution} {calls : List Sending} {body : List LogEntry}

/-- The nodes that entries belong to, those of neighbours taken together. -/
def path (entries : List LogEntry) : List String := (entries.map LogEntry.nodeId).destutter (· ≠ ·)

/-- The log of a record without an entry that closes it early. -/
inductive Body (e : Execution) : List LogEntry → Prop where
  | whole (open_ : e.status ≠ .cancelled) : Body e e.log
  | closed {body : List LogEntry} {closing : LogEntry} (log : e.log = body ++ [closing])
    (closes : Closes e closing) : Body e body

/-- What a log shows: a path through the graph that begins where the trigger leads to, takes the branches that
were recorded, and ends at an end node if and only if the run is complete; and the calls answer one by one to the
entries of ordinary actions, none of which is sent out twice. -/
structure Shows (g : Graph) (e : Execution) (calls : List Sending) (body : List LogEntry) : Prop where
  edges : (path body).IsChain fun id next => ∃ edge ∈ g.edges, edge.source = id ∧ edge.target = next
  branches : body.IsChain (Trail.Follows g)
  entrance : ∀ id ∈ (path body).head?, g.Entrance id
  ends : e.status = .completed ↔
    ∃ id node, (path body).getLast? = some id ∧ g.node? id = some node ∧ node.task = .finish
  sent : List.Forall₂ g.TellsOf calls (body.filter fun entry => (g.ordinary? entry.nodeId).isSome)
  once : (calls.map Sending.nodeId).Nodup

theorem path_spec {stage : Stage} (trail : Trail g body calls stage) :
    ((path body).IsChain fun id next => ∃ edge ∈ g.edges, edge.source = id ∧ edge.target = next) ∧
      (path body).head? = body.head?.map LogEntry.nodeId ∧
      (path body).getLast? = body.getLast?.map LogEntry.nodeId := by
  have chain := trail.isChain
  cases body with
  | nil => exact ⟨List.isChain_nil, rfl, rfl⟩
  | cons entry rest =>
    have steps : ((entry :: rest).map LogEntry.nodeId).IsChain fun id next =>
        id = next ∨ ∃ edge ∈ g.edges, edge.source = id ∧ edge.target = next := by
      refine List.isChain_map_of_isChain LogEntry.nodeId ?_ chain
      intro x y follows
      rcases follows with same | ⟨edge, mem, source, target, -⟩
      · exact .inl same
      · exact .inr ⟨edge, mem, source, target⟩
    obtain ⟨related, first, last⟩ := List.destutter'_path _ steps
    exact ⟨related, first, last.trans (by rw [← List.map_cons, List.getLast?_map])⟩

/-- A trail shows a path. -/
theorem Trail.shows {rank : String → Nat} (ranking : g.Ranking rank) {stage : Stage}
    (trail : Trail g body calls stage) (status : e.status = .completed ↔ stage.status = .completed) :
    Shows g e calls body := by
  obtain ⟨edges, first, last⟩ := path_spec trail
  refine ⟨edges, trail.isChain, ?_, ?_, trail.calls_tellOf, trail.calls_nodup ranking⟩
  · intro id head
    rw [first] at head
    obtain ⟨entry, mem, rfl⟩ := Option.mem_map.mp head
    exact trail.entrance_of_head entry mem
  · rw [status, trail.ended_iff, last]
    constructor
    · rintro ⟨entry, node, final, found, kind⟩
      exact ⟨entry.nodeId, node, by rw [final]; rfl, found, kind⟩
    · rintro ⟨id, node, final, found, kind⟩
      obtain ⟨entry, here, rfl⟩ := Option.map_eq_some_iff.mp final
      exact ⟨entry, node, here, found, kind⟩

/-- The record of a run on its course shows the path of the run. -/
theorem Course.shows {rank : String → Nat} (ranking : g.Ranking rank) (course : Course g e calls) :
    ∃ body, Body e body ∧ Shows g e calls body := by
  cases course with
  | @going stage trail status nodeId =>
    have open_ : e.status ≠ .cancelled := by
      rw [status]
      cases stage <;> simp [Stage.status]
    exact ⟨e.log, .whole open_, trail.shows ranking (by rw [status])⟩
  | @closed body closing stage trail unfinished log closes =>
    have unended : e.status ≠ .completed := by
      cases closes with
      | cancel status => simp [status]
      | engine status => simp [status]
    exact ⟨body, .closed log closes, trail.shows ranking (by simp [unended, unfinished])⟩

end TriggerFlow.Run
