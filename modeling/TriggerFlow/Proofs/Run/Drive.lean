import TriggerFlow.Proofs.Run.Visit

/-!
# Drives of valid graphs

While a run of a valid graph is driven, its stored record is the one in hand between two visits, and it is on
its course. A drive ends with the run parked or at an end, or it fails for a reason outside of the graph: a
value that cannot be had, a lost record, or a budget of visits that is too small for the way ahead.
-/

namespace TriggerFlow.Run

variable {σ : Type} {s : Surroundings σ} {k : Ledger s} {g : Graph} {h h' : Held σ} {limits : Limits}

/-- The run in hand is stored as it is, and on its course. -/
structure Live (k : Ledger s) (g : Graph) (h : Held σ) : Prop where
  ready : Ready k h
  graph : h.record.graph = g
  stored : k.record h.desk.world h.record.id = some h.record
  course : Course g h.record (k.calls h.desk.world h.record.id)

/-- A drive has been stopped by a failure before the run came to an end: the run is still on its course, or
its record is lost. -/
structure Halted (k : Ledger s) (g : Graph) (h' : Held σ) : Prop where
  lives : h'.record.status.canBecome .failed
  left : k.record h'.desk.world h'.record.id = none ∨ Live k g h'

namespace Live

theorem of_cancels (live : Live k g h) (cancels : List String) :
    Live k g { h with desk := { h.desk with cancels } } :=
  ⟨⟨live.ready.valid, live.ready.claimed, live.ready.own⟩, live.graph, live.stored, live.course⟩

theorem present (live : Live k g h) : k.record h.desk.world h.record.id ≠ none := by simp [live.stored]

/-- The record that has been stored is on its course, and nothing has been sent out meanwhile. -/
theorem of_stored (live : Live k g h) (p : Proceeds k h h')
    (becomes : k.Becomes h.desk.world
      (Function.update (k.record h.desk.world) h.record.id (some h'.record)) h'.desk.world)
    (course : Course g h'.record (k.calls h.desk.world h.record.id)) : Live k g h' where
  ready := p.ready
  graph := p.run.graph.trans live.graph
  stored := by rw [p.run.id, becomes.record, Function.update_self]
  course := by rw [p.run.id]; simpa [Books.calls, becomes.sent] using course

/-- Nothing has changed that the run depends on. -/
theorem of_same (live : Live k g h) (p : Proceeds k h h') (record : h'.record = h.record)
    (same : k.Same h.desk.world h'.desk.world) : Live k g h' where
  ready := p.ready
  graph := record ▸ live.graph
  stored := by rw [record, same.record, live.stored]
  course := by
    rw [record]
    simpa [Books.calls, same.sent] using live.course

end Live

/-- A run that has not ended can be cancelled where it is. -/
theorem cancel_live (live : Live k g h) (lives : h.record.status.canBecome .cancelled) :
    (cancel s).Ensures h
      (fun _ h' => Live k g h' ∧ h'.record.status = .cancelled ∧
        h.record.log.length < h'.record.log.length)
      fun _ _ => False := by
  have terminal : h.record.isTerminal = false := by
    cases ended : h.record.isTerminal
    · rfl
    · rw [Status.canBecome_of_isTerminal ended] at lives
      cases lives
  refine ((cancel_spec live.ready.valid live.present lives).and (keeps_cancel h live.ready)).mono ?_
    fun _ _ none => none.1.elim
  rintro - h' ⟨⟨ended, noted, record, -, becomes⟩, p⟩
  refine ⟨live.of_stored p becomes ?_, by rw [record]; rfl, by rw [record]; simp [cancelledAt]⟩
  rw [record]
  exact live.course.cancelledAt terminal ended noted

/-- A run that is not to be visited has been left as it was, or cancelled. -/
structure Left (k : Ledger s) (g : Graph) (h h' : Held σ) : Prop where
  live : Live k g h'
  as_was : h'.record = h.record ∧ h.record.status ≠ .running ∨
    h'.record.status = .cancelled ∧ h.record.log.length < h'.record.log.length

/-- Either the run goes on to its next visit, or it is left where it is or cancelled. -/
theorem mayVisit_spec (live : Live k g h) : (mayVisit s).Ensures h
    (fun go h' => if go then h.record.status = .running ∧ h' = h else Left k g h h') fun _ _ => False := by
  refine Act.ensures_bind.mpr (ensures_current.mpr ?_)
  split
  · rename_i idle
    refine Act.ensures_bind.mpr (Act.ensures_bind.mpr (ensures_current.mpr ?_))
    split
    · rename_i waits
      refine Act.ensures_bind.mpr (ensures_consumeCancel.mpr ?_)
      split
      · refine (cancel_live (live.of_cancels _) ?_).mono ?_ fun _ _ none => none.elim
        · show h.record.status.canBecome .cancelled
          rw [waits]
          rfl
        · rintro - h' ⟨live', status, longer⟩
          exact ⟨live', .inr ⟨status, longer⟩⟩
      · exact ⟨live, .inl ⟨rfl, idle⟩⟩
    · exact ⟨live, .inl ⟨rfl, idle⟩⟩
  · rename_i running
    have running : h.record.status = .running := by simpa using running
    refine Act.ensures_bind.mpr (ensures_consumeCancel.mpr ?_)
    split
    · refine Act.ensures_bind.mpr ((cancel_live (live.of_cancels _) ?_).mono ?_ fun _ _ none => none.elim)
      · show h.record.status.canBecome .cancelled
        rw [running]
        rfl
      · rintro - h' ⟨live', status, longer⟩
        exact ⟨live', .inr ⟨status, longer⟩⟩
    · exact ⟨running, rfl⟩

/-- A visit of the node `node` has been a turn. -/
structure Visited (k : Ledger s) (g : Graph) (node : Node) (calm : Prop) (h h' : Held σ) (entry : LogEntry)
    (stage : Stage) : Prop where
  live : Live k g h'
  turn : ∃ new, Turn g node entry new stage
  log : h'.record.log = h.record.log ++ [entry]
  status : h'.record.status = stage.status
  nodeId : h'.record.nodeId = stage.nodeId
  calm : calm → stage.status ≠ .failed ∧ h'.desk.cancels = h.desk.cancels

/-- A visit has failed for a reason outside of the graph. -/
structure Foiled (k : Ledger s) (g : Graph) (calm : Prop) (failure : Failure) (h' : Held σ) : Prop where
  cause : ∀ fault, failure ≠ .run fault
  halted : Halted k g h'
  upset : ¬ calm

/-- Goes to the next node, if one is named, and has the record stored. -/
theorem goOn_spec (valid : k.valid h.desk.world) (next : Option String) : (goOn s next).Ensures h
    (fun _ h' => h'.record = { h.record with nodeId := next.or h.record.nodeId } ∧
      h'.desk.cancels = h.desk.cancels ∧ k.Becomes h.desk.world
        (Function.update (k.record h.desk.world) h.record.id (some h'.record)) h'.desk.world)
    fun _ _ => False := by
  have stores {h : Held σ} (valid : k.valid h.desk.world) : (persist s).Ensures h
      (fun _ h' => h'.record = h.record ∧ h'.desk.cancels = h.desk.cancels ∧ k.Becomes h.desk.world
        (Function.update (k.record h.desk.world) h.record.id (some h'.record)) h'.desk.world)
      fun _ _ => False := by
    refine (persist_spec valid).mono ?_ fun _ _ none => none
    rintro - h' ⟨record, desk, becomes⟩
    exact ⟨record, by rw [desk], record ▸ becomes⟩
  cases next with
  | none => exact stores valid
  | some id => exact Act.ensures_bind.mpr (ensures_change.mpr (stores valid))

/-- A record in hand that has come to a stage. -/
structure At (k : Ledger s) (g : Graph) (stage : Stage) (log : List LogEntry) (h' : Held σ) : Prop where
  live : Live k g h'
  status : h'.record.status = stage.status
  nodeId : h'.record.nodeId = stage.nodeId
  log : h'.record.log = log

/-- What has been written on the way to a stage goes into the store with the node to go on with. -/
theorem goOn_at {id : String} {entries : List LogEntry} {new : List Sending} {stage : Stage}
    {next : Option String} (live : Live k g h) (here : h.record.nodeId = some id)
    (wrote : Wrote k entries new h h') (p : Proceeds k h h') (status : h'.record.status = stage.status)
    (next_eq : stage.nodeId = some (next.getD id))
    (trail : Trail g (h.record.log ++ entries) (k.calls h.desk.world h.record.id ++ new) stage) :
    (goOn s next).Ensures h'
      (fun _ h'' => At k g stage (h.record.log ++ entries) h'' ∧ h''.desk.cancels = h'.desk.cancels)
      fun _ _ => False := by
  refine ((goOn_spec wrote.valid next).and (keeps_goOn next h' p.ready)).mono ?_ fun _ _ none => none.1.elim
  rintro - h'' ⟨⟨record, cancels, becomes⟩, p'⟩
  have log : h''.record.log = h.record.log ++ entries := by rw [record]; exact wrote.log
  have status : h''.record.status = stage.status := by rw [record]; exact status
  have nodeId : h''.record.nodeId = stage.nodeId := by
    rw [record, next_eq, wrote.nodeId, here]
    cases next <;> rfl
  have calls : k.calls h''.desk.world h''.record.id = k.calls h.desk.world h.record.id ++ new := by
    rw [p'.run.id, p.run.id, ← wrote.calls]
    simp [Books.calls, becomes.sent]
  refine ⟨⟨⟨p'.ready, (p.trans p').run.graph.trans live.graph, ?_, ?_⟩, status, nodeId, log⟩, cancels⟩
  · rw [p'.run.id, becomes.record, Function.update_self]
  · exact .going (by rw [log, calls]; exact trail) status nodeId

theorem visited_of_acted {node : Node} {calm : Prop} {next : Option String} {h₁ : Held σ} {entry : LogEntry}
    {new : List Sending} {stage : Stage} (live : Live k g h) (found : g.node? node.id = some node)
    (here : h.record.nodeId = some node.id) (trail : Trail g h.record.log
      (k.calls h.desk.world h.record.id) (.ahead node.id))
    (acted : Acted k g node calm h next h₁ entry new stage) (p : Proceeds k h h₁) :
    (goOn s next).Ensures h₁ (fun _ h' => Visited k g node calm h h' entry stage) fun _ _ => False := by
  refine (goOn_at live here acted.wrote p acted.status acted.next (.visited trail found acted.turn)).mono ?_
    fun _ _ none => none
  rintro - h' ⟨at_stage, cancels⟩
  exact ⟨at_stage.live, ⟨new, acted.turn⟩, at_stage.log, at_stage.status, at_stage.nodeId,
    fun calm => ⟨(acted.calm calm).1, cancels.trans (acted.calm calm).2⟩⟩

theorem finish_spec (limits : Limits) {node : Node} (live : Live k g h) (running : h.record.status = .running)
    (found : g.node? node.id = some node) (here : h.record.nodeId = some node.id)
    (trail : Trail g h.record.log (k.calls h.desk.world h.record.id) (.ahead node.id))
    (kind : node.task = .finish) : (finish s node).Ensures h
      (fun _ h' => ∃ entry stage, Visited k g node (Calm s limits h node) h h' entry stage)
      fun _ _ => False := by
  refine Act.ensures_bind.mpr (((log_stored live.ready.valid live.present ..).and
    (keeps_log _ _ _ _ _ h live.ready)).mono ?_ fun _ _ none => none.1.elim)
  rintro - h₁ ⟨⟨record, wrote, -, cancels⟩, p⟩
  refine Act.ensures_bind.mpr (((become_spec ?_).and (keeps_become _ h₁ p.ready)).mono ?_ fun _ _ none => none.1.elim)
  · rw [record]
    exact congrArg (fun status => status.canBecome .completed) running
  rintro - h₂ ⟨⟨moved, desk⟩, p'⟩
  obtain ⟨entry, acted⟩ : ∃ entry,
      Acted k g node (Calm s limits h node) h none h₂ entry [] (.ended node.id) := by
    refine ⟨_, ⟨rfl, ?_, .ends kind⟩, wrote.trans (moved.wrote desk wrote.valid), moved.status, rfl, ?_⟩
    · simp [Node.ordinary?, kind]
    · intro calm
      exact ⟨by simp [Stage.status], by rw [desk]; exact cancels calm.2⟩
  refine (visited_of_acted live found here trail acted (p.trans p')).mono ?_ fun _ _ none => none.elim
  exact fun _ h' visited => ⟨_, _, visited⟩

theorem currentNode_at {node : Node} (found : h.record.nodeId.bind h.record.graph.node? = some node) :
    currentNode h = (.ok node, h) := by
  rw [currentNode, Act.bind_run_ok (show Held.current h = (.ok h.record, h) from rfl), found]
  rfl

theorem currentNode_ok {node : Node} (graph : h.record.graph = g) (here : h.record.nodeId = some node.id)
    (found : g.node? node.id = some node) : currentNode h = (.ok node, h) :=
  currentNode_at (by rw [here, graph, Option.bind_some, found])

/-- A visit whose act has balked has failed. -/
theorem Balked.foiled {calm : Prop} {f : Failure} (live : Live k g h) (running : h.record.status = .running)
    (balked : Balked k calm h f h') (p : Proceeds k h h') : Foiled k g calm f h' := by
  refine ⟨balked.cause, ⟨?_, ?_⟩, balked.upset⟩
  · rw [balked.status, running]
    rfl
  · rcases balked.left with lost | ⟨record, same⟩
    · exact .inl (by rw [p.run.id, lost])
    · exact .inr (live.of_same p record same)

theorem Live.visits {node : Node} (live : Live k g h) (sound : g.Valid) (running : h.record.status = .running)
    (found : g.node? node.id = some node) : Visits k g h node :=
  ⟨sound, found, live.graph, running, live.ready.valid, live.ready.claimed, live.present⟩

/-- A run has come to a node that it may visit. -/
structure Arrived (k : Ledger s) (g : Graph) (h : Held σ) (node : Node) : Prop where
  at_node : Visits k g h node
  here : h.record.nodeId = some node.id
  trail : Trail g h.record.log (k.calls h.desk.world h.record.id) (.ahead node.id)
  quiet : ∀ t, node.task ≠ .trigger t

/-- The edge that a running run has taken leads to a node, and never to the trigger. -/
theorem Live.arrived (live : Live k g h) (sound : g.Valid) (running : h.record.status = .running) :
    ∃ node, Arrived k g h node := by
  obtain ⟨id, trail, here⟩ := live.course.running running
  obtain ⟨edge, mem, rfl⟩ := trail.exists_edge
  obtain ⟨node, found, quiet⟩ := sound.target_node mem
  have same := (Graph.mem_of_node? found).2
  rw [← same] at found here trail
  exact ⟨node, live.visits sound running found, here, trail, quiet⟩

theorem visit_spec (limits : Limits) (sound : g.Valid) (live : Live k g h) (running : h.record.status = .running) :
    (visit s limits).Ensures h
      (fun _ h' => ∃ node entry stage, g.node? node.id = some node ∧ h.record.nodeId = some node.id ∧
        Visited k g node (Calm s limits h node) h h' entry stage)
      (fun failure h' => ∃ node, g.node? node.id = some node ∧ h.record.nodeId = some node.id ∧
        Foiled k g (Calm s limits h node) failure h') := by
  obtain ⟨node, at_, here, trail, quiet⟩ := live.arrived sound running
  have found := at_.found
  have goesOn {x : Act (Held σ) (Option String)} (keeps : Keeps k x) (spec : x.Ensures h
      (fun next h' => ∃ entry new stage, Acted k g node (Calm s limits h node) h next h' entry new stage)
      (Balked k (Calm s limits h node) h)) : (x >>= goOn s).Ensures h
      (fun _ h' => ∃ node entry stage, g.node? node.id = some node ∧ h.record.nodeId = some node.id ∧
        Visited k g node (Calm s limits h node) h h' entry stage)
      (fun failure h' => ∃ node, g.node? node.id = some node ∧ h.record.nodeId = some node.id ∧
        Foiled k g (Calm s limits h node) failure h') := by
    refine Act.ensures_bind.mpr ((spec.and (keeps h live.ready)).mono ?_ ?_)
    · rintro next h₁ ⟨⟨entry, new, stage, acted⟩, p⟩
      refine (visited_of_acted live found here trail acted p).mono ?_ fun _ _ none => none.elim
      exact fun _ h' visited => ⟨node, entry, stage, found, here, visited⟩
    · rintro f h₁ ⟨balked, p⟩
      exact ⟨node, found, here, balked.foiled live running p⟩
  refine (Act.ensures_bind_of_ok (currentNode_ok live.graph here found)).mpr ?_
  split
  · rename_i a kind
    cases parks : a.kind.parks with
    | true => exact goesOn (keeps_park node a) (park_spec limits at_ kind parks)
    | false => exact goesOn (keeps_perform limits node a) (perform_spec limits at_ kind parks)
  · rename_i expression kind
    exact goesOn (keeps_decide node expression) (decide_spec limits at_ kind)
  · rename_i kind
    refine (finish_spec limits live running found here trail kind).mono ?_ fun _ _ none => none.elim
    rintro - h' ⟨entry, stage, visited⟩
    exact ⟨node, entry, stage, found, here, visited⟩
  · rename_i t kind
    exact absurd kind (quiet t)

/-- A visit that has not parked or ended the run leads it down to another node. -/
theorem Visited.descends {node : Node} {calm : Prop} {entry : LogEntry} {stage : Stage} {rank : String → Nat}
    (visited : Visited k g node calm h h' entry stage) (ranking : g.Ranking rank)
    (running : h'.record.status = .running) :
    ∃ id, h'.record.nodeId = some id ∧ rank id < rank node.id := by
  obtain ⟨new, turn⟩ := visited.turn
  have down := turn.height_le ranking
  have status := visited.status
  rw [running] at status
  cases stage with
  | ahead id => exact ⟨id, visited.nodeId, down⟩
  | _ => cases status

theorem Visited.longer {node : Node} {calm : Prop} {entry : LogEntry} {stage : Stage}
    (visited : Visited k g node calm h h' entry stage) : h.record.log.length < h'.record.log.length := by
  simp [visited.log]

/-- How the visits of a drive end. -/
structure Rested (k : Ledger s) (g : Graph) (h h' : Held σ) : Prop where
  live : Live k g h'
  rests : h'.record.status ≠ .running
  longer : h.record.status = .running → h.record.log.length < h'.record.log.length

/-- Why the visits of a drive are broken off. -/
structure Broken (k : Ledger s) (g : Graph) (limits : Limits) (budget : Nat) (h : Held σ)
    (failure : Failure) (h' : Held σ) : Prop where
  halted : Halted k g h'
  running : h.record.status = .running
  cause : ∀ fault, failure = .run fault → fault = .budgetExceeded limits.steps ∧
    ∀ rank id, g.Ranking rank → h.record.nodeId = some id → budget ≤ rank id

theorem Left.rested (left : Left k g h h') : Rested k g h h' := by
  rcases left.as_was with ⟨record, idle⟩ | ⟨cancelled, longer⟩
  · exact ⟨left.live, by rwa [record], fun running => absurd running idle⟩
  · exact ⟨left.live, by simp [cancelled], fun _ => longer⟩

theorem loop_spec (sound : g.Valid) : ∀ (budget : Nat) {h : Held σ}, Live k g h →
    (loop s limits budget).Ensures h (fun _ => Rested k g h) (Broken k g limits budget h)
  | 0, h, live => by
    refine Act.ensures_bind.mpr ((mayVisit_spec live).mono ?_ fun _ _ none => none.elim)
    rintro (_ | _) h₁ spec
    · exact Left.rested spec
    · obtain ⟨running, rfl⟩ := spec
      refine ⟨⟨?_, .inr live⟩, running, ?_⟩
      · rw [running]
        rfl
      · intro fault same
        cases same
        exact ⟨rfl, fun _ _ _ _ => Nat.zero_le _⟩
  | budget + 1, h, live => by
    refine Act.ensures_bind.mpr ((mayVisit_spec live).mono ?_ fun _ _ none => none.elim)
    rintro (_ | _) h₁ spec
    · exact Left.rested spec
    obtain ⟨running, rfl⟩ := spec
    refine Act.ensures_bind.mpr ((visit_spec limits sound live running).mono ?_ ?_)
    · rintro - h₂ ⟨node, entry, stage, found, here, visited⟩
      refine ((loop_spec sound budget visited.live).and (keeps_loop limits budget h₂ visited.live.ready)).mono ?_ ?_
      · exact fun _ h₃ ⟨rested, p⟩ => ⟨rested.live, rested.rests,
          fun _ => visited.longer.trans_le p.log.length_le⟩
      · refine fun failure h₃ ⟨broken, _⟩ => ⟨broken.halted, running, ?_⟩
        intro fault same
        obtain ⟨cause, far⟩ := broken.cause fault same
        refine ⟨cause, ?_⟩
        intro rank id ranking at_id
        obtain ⟨next, at_next, down⟩ := visited.descends ranking broken.running
        rw [here] at at_id
        cases at_id
        exact (far rank next ranking at_next).trans_lt down
    · rintro failure h₂ ⟨node, -, -, foiled⟩
      exact ⟨foiled.halted, running, fun fault same => absurd same (foiled.cause fault)⟩

end TriggerFlow.Run
