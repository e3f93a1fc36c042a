import TriggerFlow.Proofs.Run.Course
import TriggerFlow.Proofs.Run.Frame

/-!
# Visits of nodes

A visit of a node of a valid graph is a turn: it writes one entry, sends out one call at an ordinary action
and none elsewhere, and leads on as the graph says. It fails only for a reason that lies outside of the
graph, and then it has written nothing, unless the record of the run is lost.
-/

namespace TriggerFlow.Run

variable {σ : Type} {s : Surroundings σ} {k : Ledger s} {g : Graph} {h h' h'' : Held σ}

/-- What has been written into the record in hand and sent out for it. State, variables and what the record
waits for may have changed besides. -/
structure Wrote (k : Ledger s) (entries : List LogEntry) (new : List Sending) (h h' : Held σ) : Prop where
  valid : k.valid h'.desk.world
  run : SameRun h.record h'.record
  nodeId : h'.record.nodeId = h.record.nodeId
  log : h'.record.log = h.record.log ++ entries
  calls : k.calls h'.desk.world h.record.id = k.calls h.desk.world h.record.id ++ new

namespace Wrote

variable {entries more : List LogEntry} {new further : List Sending}

theorem trans (w : Wrote k entries new h h') (w' : Wrote k more further h' h'') :
    Wrote k (entries ++ more) (new ++ further) h h'' where
  valid := w'.valid
  run := w.run.trans w'.run
  nodeId := w'.nodeId.trans w.nodeId
  log := by rw [w'.log, w.log, List.append_assoc]
  calls := by rw [← w.run.id, w'.calls, w.run.id, w.calls, List.append_assoc]

/-- Only the record in hand has changed. -/
theorem of_change (valid : k.valid h.desk.world) {e : Execution} (run : SameRun h.record e)
    (nodeId : e.nodeId = h.record.nodeId) (log : e.log = h.record.log) :
    Wrote k [] [] h { h with record := e } :=
  ⟨valid, run, nodeId, by simp [log], by simp⟩

end Wrote

/-- A record after a move to another state. -/
structure Moved (e : Execution) (next : Status) (e' : Execution) : Prop where
  run : SameRun e e'
  status : e'.status = next
  nodeId : e'.nodeId = e.nodeId
  log : e'.log = e.log
  error : e'.error = e.error
  vars : e'.vars = e.vars

theorem become_spec {next : Status} (can : h.record.status.canBecome next) : (become s next).Ensures h
    (fun _ h' => Moved h.record next h'.record ∧ h'.desk = h.desk) fun _ _ => False := by
  refine ensures_become.mpr ⟨?_, ?_⟩
  · intro e moved
    rw [Execution.become?, if_pos can] at moved
    refine ⟨?_, rfl⟩
    split at moved <;> cases moved <;> exact ⟨⟨rfl, rfl, rfl⟩, rfl, rfl, rfl, rfl, rfl⟩
  · intro none
    rw [Execution.become?, if_pos can] at none
    split at none <;> cases none

theorem Moved.wrote {next : Status} (moved : Moved h.record next h'.record) (desk : h'.desk = h.desk)
    (valid : k.valid h.desk.world) : Wrote k [] [] h h' :=
  ⟨desk ▸ valid, moved.run, moved.nodeId, by simp [moved.log], by simp [desk]⟩

/-- The record in hand is changed on the spot, and moves to another state. -/
theorem change_become_spec {α : Type} {change : Execution → Execution} {next : Status} {rest : Act (Held σ) α}
    {good : α → Held σ → Prop} {bad : Failure → Held σ → Prop} (valid : k.valid h.desk.world)
    (run : SameRun h.record (change h.record)) (nodeId : (change h.record).nodeId = h.record.nodeId)
    (log : (change h.record).log = h.record.log) (can : (change h.record).status.canBecome next)
    (after : ∀ h', Moved (change h.record) next h'.record → h'.desk = h.desk → Wrote k [] [] h h' →
      rest.Ensures h' good bad) :
    (Held.change change >>= fun _ => become s next >>= fun _ => rest).Ensures h good bad := by
  refine Act.ensures_bind.mpr (ensures_change.mpr (Act.ensures_bind.mpr ?_))
  refine (become_spec can).mono ?_ fun _ _ none => none.elim
  rintro - h' ⟨moved, desk⟩
  have changed : Wrote k [] [] h { h with record := change h.record } := .of_change valid run nodeId log
  exact after h' moved desk (changed.trans (moved.wrote desk valid))

/-- As long as the record of a run is stored, an entry can be logged. -/
theorem log_stored (valid : k.valid h.desk.world) (stored : k.record h.desk.world h.record.id ≠ none)
    (nodeId action : String) (outcome : Outcome) (message : String) (data : Option Members) :
    (log s nodeId action outcome message data).Ensures h
      (fun _ h' => h'.record = logged h.record ⟨s.now h.desk.world, nodeId, action, outcome, message, data⟩ ∧
        Wrote k [⟨s.now h.desk.world, nodeId, action, outcome, message, data⟩] [] h h' ∧
        k.record h'.desk.world h.record.id ≠ none ∧
        (s.Discreet h.record.id → h'.desk.cancels = h.desk.cancels))
      fun _ _ => False := by
  refine (log_spec valid nodeId action outcome message data).mono ?_ fun _ _ lost => stored lost.2.1
  rintro - h' ⟨e, -, record, -, cancels, becomes⟩
  refine ⟨record, ⟨becomes.valid, ?_, ?_, ?_, ?_⟩, ?_, cancels⟩
  · rw [record]
    exact ⟨rfl, rfl, rfl⟩
  · rw [record]
    rfl
  · rw [record]
    rfl
  · simp [Books.calls, becomes.sent]
  · simp [becomes.record]

/-- Nothing can be logged of a run whose record is lost. -/
theorem log_lost (valid : k.valid h.desk.world) (lost : k.record h.desk.world h.record.id = none)
    (nodeId action : String) (outcome : Outcome) (message : String) (data : Option Members) :
    (log s nodeId action outcome message data).Ensures h (fun _ _ => False)
      fun f h' => f = .executionMissing h.record.id ∧ h'.record.status = h.record.status ∧
        k.record h'.desk.world h.record.id = none := by
  refine (log_spec valid nodeId action outcome message data).mono ?_ ?_
  · rintro - h' ⟨e, present, -⟩
    cases lost.symm.trans present
  · rintro f h' ⟨rfl, -, record, -, same⟩
    exact ⟨rfl, by rw [record]; rfl, by rw [same.record, lost]⟩

/-- The one edge that leads on from an action of a valid graph. -/
theorem successor_of_action (valid : g.Valid) {node : Node} {id : String} (found : g.node? id = some node)
    {a : Action} (kind : node.task = .action a) : ∃ edge ∈ g.edges, edge.source = id ∧
      successor (σ := σ) g id = pure edge.target := by
  obtain ⟨mem, rfl⟩ := Graph.mem_of_node? found
  obtain ⟨edge, leads⟩ := valid.action_leads node mem a kind
  have out : edge ∈ g.outgoing node.id := by simp [leads]
  obtain ⟨mem, source⟩ := Graph.mem_edges_of_outgoing out
  exact ⟨edge, mem, source, by simp [successor, leads]⟩

/-- What the run in hand goes through while its action runs: its record may be lost, and nothing else. -/
structure Undergoes (k : Ledger s) (h h' : Held σ) : Prop where
  valid : k.valid h'.desk.world
  active : h'.desk.active = h.desk.active
  record : h'.record = h.record
  sent : k.sent h'.desk.world = k.sent h.desk.world
  own : k.record h'.desk.world h.record.id = k.record h.desk.world h.record.id ∨
    k.record h'.desk.world h.record.id = none

namespace Undergoes

theorem refl (valid : k.valid h.desk.world) : Undergoes k h h := ⟨valid, rfl, rfl, rfl, .inl rfl⟩

theorem trans (u : Undergoes k h h') (u' : Undergoes k h' h'') : Undergoes k h h'' where
  valid := u'.valid
  active := u'.active.trans u.active
  record := u'.record.trans u.record
  sent := u'.sent.trans u.sent
  own := by
    rcases u'.own with same | lost
    · rw [u.record] at same
      rw [same]
      exact u.own
    · exact .inr (by rwa [u.record] at lost)

theorem of_same {w : σ} (same : k.Same h.desk.world w) :
    Undergoes k h { h with desk := { h.desk with world := w } } :=
  ⟨same.valid, rfl, rfl, same.sent, .inl (by rw [same.record])⟩

end Undergoes

theorem happen_spec (valid : k.valid h.desk.world) (claimed : h.record.id ∈ h.desk.active)
    (effect : Action.Effect) : (happen s effect).Ensures h (fun _ => Undergoes k h) fun _ => Undergoes k h := by
  have suffered : Act.Ensures (Held.inWorld (s.suffer effect)) h (fun _ => Undergoes k h) fun _ => Undergoes k h := by
    refine ensures_inWorld.mpr ((k.suffer valid effect).mono ?_ fun _ _ => .of_same)
    intro _ w becomes
    refine ⟨becomes.valid, rfl, rfl, becomes.sent, ?_⟩
    show k.record w _ = _ ∨ k.record w _ = none
    rw [becomes.record]
    cases effect with
    | forget id =>
      by_cases same : h.record.id = id
      · exact .inr (by simp [afterEffect, same])
      · exact .inl (by simp [afterEffect, Function.update_of_ne same])
    | _ => exact .inl rfl
  cases effect with
  | cancel id =>
    have asked (d : Desk σ) (requested : Requested k id h.desk d) : Undergoes k h { h with desk := d } := by
      refine ⟨requested.valid, requested.active, rfl, requested.sent, .inl ?_⟩
      by_cases same : h.record.id = id
      · rcases requested.own with unchanged | ⟨idle, -⟩
        · exact same ▸ unchanged
        · exact absurd (same ▸ claimed) idle
      · exact requested.others _ same
    refine Act.ensures_bind.mpr (ensures_atDesk.mpr ?_)
    exact (requestCancel_spec valid id).mono (fun _ => asked) fun _ => asked
  | _ => exact suffered

theorem happenAll_spec : ∀ (effects : List Action.Effect) {h : Held σ}, k.valid h.desk.world →
    h.record.id ∈ h.desk.active →
      (happenAll s effects).Ensures h (fun _ => Undergoes k h) fun _ => Undergoes k h
  | [], _, valid, _ => .refl valid
  | effect :: rest, h, valid, claimed => by
    refine Act.ensures_bind.mpr ((happen_spec valid claimed effect).mono ?_ fun _ _ u => u)
    intro _ h' u
    exact (happenAll_spec rest u.valid (by rw [u.record, u.active]; exact claimed)).mono
      (fun _ _ => u.trans) fun _ _ => u.trans

/-- Whether no run is asked to stop and no record is lost. -/
def harmless : Action.Effect → Bool
  | .pass _ | .draw => true
  | .cancel _ | .forget _ => false

/-- The run in hand and its desk are as they were, but for the time. -/
structure Unharmed (k : Ledger s) (h h' : Held σ) : Prop where
  record : h'.record = h.record
  cancels : h'.desk.cancels = h.desk.cancels
  same : k.Same h.desk.world h'.desk.world

theorem happenAll_unharmed : ∀ (effects : List Action.Effect) {h : Held σ}, k.valid h.desk.world →
    (∀ effect ∈ effects, harmless effect = true) →
      (happenAll s effects).Ensures h (fun _ => Unharmed k h) fun _ => Unharmed k h
  | [], _, valid, _ => ⟨rfl, rfl, ⟨valid, rfl, rfl, k.drift_refl _⟩⟩
  | effect :: rest, h, valid, quiet => by
    have first : (happen s effect).Ensures h (fun _ => Unharmed k h) fun _ => Unharmed k h := by
      have suffered (records : afterEffect (k.record h.desk.world) effect = k.record h.desk.world) :
          Act.Ensures (Held.inWorld (s.suffer effect)) h (fun _ => Unharmed k h) fun _ => Unharmed k h := by
        refine ensures_inWorld.mpr ((k.suffer_same valid records).mono ?_ ?_)
        · exact fun _ w same => ⟨rfl, rfl, same⟩
        · exact fun _ w same => ⟨rfl, rfl, same⟩
      cases effect with
      | pass => exact suffered rfl
      | draw => exact suffered rfl
      | cancel | forget => cases quiet _ (List.mem_cons_self ..)
    refine Act.ensures_bind.mpr (first.mono ?_ fun _ _ u => u)
    intro _ h' u
    have on (h'' : Held σ) (u' : Unharmed k h' h'') : Unharmed k h h'' :=
      ⟨u'.record.trans u.record, u'.cancels.trans u.cancels, u'.same.valid,
        u'.same.record.trans u.same.record, u'.same.sent.trans u.same.sent,
        k.drift_trans u.same.drift u'.same.drift⟩
    exact (happenAll_unharmed rest u.same.valid fun effect mem => quiet effect (by simp [mem])).mono
      (fun _ => on) fun _ => on

/-- Sending an action out always comes back with an answer. -/
theorem send_spec (valid : k.valid h.desk.world) (claimed : h.record.id ∈ h.desk.active) {sending : Sending}
    (own : sending.runId = h.record.id) (limit : Option Binary64) : (send s sending limit).Ensures h
      (fun _ h' => Wrote k [] [sending] h h' ∧ h'.record = h.record ∧
        (k.record h'.desk.world h.record.id = k.record h.desk.world h.record.id ∨
          k.record h'.desk.world h.record.id = none) ∧
        ((∀ effect ∈ (s.respond sending h.desk.world).1, harmless effect) →
          h'.desk.cancels = h.desk.cancels ∧
            k.record h'.desk.world h.record.id = k.record h.desk.world h.record.id))
      fun _ _ => False := by
  obtain ⟨valid', record, sent, -⟩ := k.respond valid sending
  refine Act.ensures_bind.mpr (ensures_inWorld.mpr (Act.ensures_bind.mpr (Act.ensures_attempt.mpr ?_)))
  generalize out : (⟨{ h.desk with world := (s.respond sending h.desk.world).2.2 }, h.record⟩ : Held σ) = gone
  have passes : (happenAll s (s.respond sending h.desk.world).1).Ensures gone
      (fun _ h' => Undergoes k gone h' ∧
        ((∀ effect ∈ (s.respond sending h.desk.world).1, harmless effect) → Unharmed k gone h'))
      fun _ h' => Undergoes k gone h' ∧
        ((∀ effect ∈ (s.respond sending h.desk.world).1, harmless effect) → Unharmed k gone h') := by
    have plain := happenAll_spec (k := k) (s.respond sending h.desk.world).1 (h := gone)
      (by rw [← out]; exact valid') (by rw [← out]; exact claimed)
    by_cases quiet : ∀ effect ∈ (s.respond sending h.desk.world).1, harmless effect
    · refine (plain.and (happenAll_unharmed _ (by rw [← out]; exact valid') quiet)).mono ?_ ?_
      · exact fun _ _ u => ⟨u.1, fun _ => u.2⟩
      · exact fun _ _ u => ⟨u.1, fun _ => u.2⟩
    · exact plain.mono (fun _ _ u => ⟨u, fun all => absurd all quiet⟩)
        fun _ _ u => ⟨u, fun all => absurd all quiet⟩
  have came (h' : Held σ) (u : Undergoes k gone h')
      (calm : (∀ effect ∈ (s.respond sending h.desk.world).1, harmless effect) → Unharmed k gone h') :
      Wrote k [] [sending] h h' ∧ h'.record = h.record ∧
        (k.record h'.desk.world h.record.id = k.record h.desk.world h.record.id ∨
          k.record h'.desk.world h.record.id = none) ∧
        ((∀ effect ∈ (s.respond sending h.desk.world).1, harmless effect) →
          h'.desk.cancels = h.desk.cancels ∧
            k.record h'.desk.world h.record.id = k.record h.desk.world h.record.id) := by
    subst out
    refine ⟨⟨u.valid, u.record ▸ .refl _, by rw [u.record], by simp [u.record], ?_⟩, u.record, ?_, ?_⟩
    · simp [Books.calls, u.sent, sent, own]
    · exact u.own.imp_left fun same => same.trans (by rw [record])
    · intro quiet
      exact ⟨(calm quiet).cancels, by rw [(calm quiet).same.record]; exact congrFun record _⟩
  exact passes.mono (fun _ h' u => came h' u.1 u.2) fun _ h' u => came h' u.1 u.2

/-- The settings of an action that parks are of use at a point in time: a delay and a deadline fit the
calendar, and a condition can be evaluated. -/
def Useful (a : Action) (config vars : Members) (time : Instant) : Prop :=
  if a.kind = .delay then
    ∃ seconds later, Action.delaySeconds config = .ok seconds ∧ after time seconds = .ok later
  else
    ∃ expression b, Action.waitExpression config = .ok expression ∧ Expr.holds expression vars = .ok b ∧
      (b = false → ∃ limit, Action.waitLimit config = .ok limit ∧
        ∀ seconds, limit = some seconds → ∃ later, after time seconds = .ok later)

/-- An action as it is sent out for the run in hand. -/
def sendingOf (e : Execution) (node : Node) (a : Action) (config : Members) : Sending :=
  ⟨e.id, node.id, a.kind, config, e.vars⟩

/-- Nothing goes wrong at a visit: templates and expressions can be evaluated, an action that is sent out
comes back with a result, and while it runs nothing is cancelled or lost. -/
def Smooth (s : Surroundings σ) (limits : Limits) (h : Held σ) (node : Node) : Prop :=
  match node.task with
  | .action a => ∃ config, Template.renderMembers h.record.vars a.config = .ok config ∧
    if a.kind.parks then Useful a config h.record.vars (s.now h.desk.world)
    else (∃ result,
        (send s (sendingOf h.record node a config) (a.timeout.or limits.timeout) h).1 = .ok (.ok result)) ∧
      ∀ effect ∈ (s.respond (sendingOf h.record node a config) h.desk.world).1, harmless effect
  | .condition expression => ∃ b, Expr.holds expression h.record.vars = .ok b
  | _ => True

/-- A visit of the run in hand at which nothing goes wrong, and nobody asks in the log for a stop. -/
def Calm (s : Surroundings σ) (limits : Limits) (h : Held σ) (node : Node) : Prop :=
  Smooth s limits h node ∧ s.Discreet h.record.id

/-- An entry at an action leads along the one edge of the action. -/
theorem leads_of_action {node : Node} {a : Action} (kind : node.task = .action a) {entry : LogEntry}
    (found : g.node? entry.nodeId = some node) {edge : Edge} (mem : edge ∈ g.edges)
    (source : edge.source = entry.nodeId) : g.Leads entry edge.target := by
  refine ⟨edge, mem, source, rfl, ?_⟩
  intro other expression found' kind'
  rw [found] at found'
  cases found'
  cases kind.symm.trans kind'

/-- The act at a node has written an entry and says which node is next. -/
structure Acted (k : Ledger s) (g : Graph) (node : Node) (calm : Prop) (h : Held σ) (next : Option String)
    (h' : Held σ) (entry : LogEntry) (new : List Sending) (stage : Stage) : Prop where
  turn : Turn g node entry new stage
  wrote : Wrote k [entry] new h h'
  status : h'.record.status = stage.status
  next : stage.nodeId = some (next.getD node.id)
  calm : calm → stage.status ≠ .failed ∧ h'.desk.cancels = h.desk.cancels

/-- The act at a node has failed for a reason outside of the graph. -/
structure Balked (k : Ledger s) (calm : Prop) (h : Held σ) (failure : Failure) (h' : Held σ) : Prop where
  cause : ∀ fault, failure ≠ .run fault
  status : h'.record.status = h.record.status
  left : k.record h'.desk.world h.record.id = none ∨
    h'.record = h.record ∧ k.Same h.desk.world h'.desk.world
  upset : ¬ calm

section Acts

variable {node : Node} {a : Action}

/-- Where a run is after an action has failed: there, or on its way to the node that is next. -/
inductive Falls (g : Graph) (node : Node) : Option String → Stage → Prop where
  | stops : Falls g node none (.stopped node.id)
  | goesOn {edge : Edge} (mem : edge ∈ g.edges) (source : edge.source = node.id) :
    Falls g node (some edge.target) (.ahead edge.target)

namespace Falls

variable {next : Option String} {stage : Stage}

theorem comes (falls : Falls g node next stage) (found : g.node? node.id = some node)
    (kind : node.task = .action a) {entry : LogEntry} (own : entry.nodeId = node.id) :
    Comes g node entry stage := by
  cases falls with
  | stops => exact .stops (by simp [kind])
  | goesOn mem source =>
    exact .onto (leads_of_action kind (own ▸ found) mem (source.trans own.symm)) (by simp [kind])

theorem nodeId (falls : Falls g node next stage) : stage.nodeId = some (next.getD node.id) := by
  cases falls <;> rfl

end Falls

/-- An action that fails while its run is in hand is logged, and the run goes on or fails. -/
theorem actionFailed_spec (sound : g.Valid) (found : g.node? node.id = some node)
    (kind : node.task = .action a) (graph : h.record.graph = g) (running : h.record.status = .running)
    (valid : k.valid h.desk.world) (stored : k.record h.desk.world h.record.id ≠ none) (message : String) :
    (actionFailed s node a message).Ensures h
      (fun next h' => ∃ entry stage, entry.nodeId = node.id ∧ Falls g node next stage ∧
        Wrote k [entry] [] h h' ∧ h'.record.status = stage.status)
      fun _ _ => False := by
  obtain ⟨edge, mem, source, leads⟩ := successor_of_action (σ := σ) sound found kind
  refine Act.ensures_bind.mpr ((log_stored valid stored ..).mono ?_ fun _ _ none => none)
  rintro - h₁ ⟨record, wrote, -, -⟩
  refine Act.ensures_bind.mpr (ensures_current.mpr ?_)
  have status : h₁.record.status = .running := by rw [record]; exact running
  split
  · rw [wrote.run.graph, graph, leads]
    exact ⟨_, .ahead edge.target, rfl, .goesOn mem source, wrote, status⟩
  · have can : h₁.record.status.canBecome .failed := by rw [status]; rfl
    refine change_become_spec wrote.valid ⟨rfl, rfl, rfl⟩ rfl rfl can ?_
    intro h₂ moved _ failed
    exact ⟨_, .stopped node.id, rfl, .stops, wrote.trans failed, moved.status⟩

/-- What a visit finds. -/
structure Visits (k : Ledger s) (g : Graph) (h : Held σ) (node : Node) : Prop where
  sound : g.Valid
  found : g.node? node.id = some node
  graph : h.record.graph = g
  running : h.record.status = .running
  valid : k.valid h.desk.world
  claimed : h.record.id ∈ h.desk.active
  stored : k.record h.desk.world h.record.id ≠ none

theorem Visits.can_become (at_ : Visits k g h node) {next : Status} (can : Status.canBecome .running next) :
    h.record.status.canBecome next := at_.running ▸ can

theorem rendered_spec (a : Action) : (rendered a).Ensures h
    (fun config h' => Template.renderMembers h.record.vars a.config = .ok config ∧ h' = h)
    fun f h' => (∃ fault, f = .path fault ∧ Template.renderMembers h.record.vars a.config = .error fault) ∧
      h' = h := by
  simp only [rendered, Act.ensures_bind, ensures_current, Act.ensures_lift]
  exact ⟨fun config ok => ⟨ok, trivial⟩, fun fault bad => ⟨⟨fault, rfl, bad⟩, trivial⟩⟩

/-- An ordinary action has been sent out, and its answer has come back. -/
structure Dispatched (k : Ledger s) (node : Node) (a : Action) (config : Members) (calm : Prop)
    (h h' : Held σ) : Prop where
  wrote : Wrote k [] [sendingOf h.record node a config] h h'
  record : h'.record = h.record
  calm : calm → h'.desk.cancels = h.desk.cancels ∧
    k.record h'.desk.world h.record.id = k.record h.desk.world h.record.id

namespace Dispatched

variable {calm : Prop} {config : Members} {h₁ : Held σ}

/-- The visit of an ordinary action is a turn with one call. -/
theorem turn (kind : node.task = .action a) (ordinary : a.kind.parks = false) {entry : LogEntry} {stage : Stage}
    (own : entry.nodeId = node.id) (comes : Comes g node entry stage) :
    Turn g node entry [sendingOf h.record node a config] stage := by
  refine ⟨own, ?_, comes⟩
  simp [Node.ordinary?, kind, ordinary, sendingOf]

/-- If the record has been lost, nothing can be logged. -/
theorem balked (at_ : Visits k g h node) (sent : Dispatched k node a config calm h h₁)
    (lost : k.record h₁.desk.world h₁.record.id = none) {f : Failure} {h' : Held σ}
    (missing : f = .executionMissing h₁.record.id ∧ h'.record.status = h₁.record.status ∧
      k.record h'.desk.world h₁.record.id = none) : Balked k calm h f h' := by
  obtain ⟨rfl, same, left⟩ := missing
  rw [sent.record] at lost left
  refine ⟨by simp, by rw [same, sent.record], .inl left, fun calm => at_.stored ?_⟩
  rw [← (sent.calm calm).2, lost]

theorem failed_spec (at_ : Visits k g h node) (kind : node.task = .action a) (ordinary : a.kind.parks = false)
    (sent : Dispatched k node a config calm h h₁) (message : String) (upset : ¬ calm) :
    (actionFailed s node a message).Ensures h₁
      (fun next h' => ∃ entry new stage, Acted k g node calm h next h' entry new stage) (Balked k calm h) := by
  by_cases lost : k.record h₁.desk.world h₁.record.id = none
  · refine Act.ensures_bind.mpr ((log_lost sent.wrote.valid lost ..).mono (fun _ _ none => none.elim) ?_)
    exact fun _ _ missing => sent.balked at_ lost missing
  · have graph : h₁.record.graph = g := by rw [sent.record, at_.graph]
    have running : h₁.record.status = .running := by rw [sent.record, at_.running]
    refine (actionFailed_spec at_.sound at_.found kind graph running sent.wrote.valid lost message).mono ?_
      fun _ _ none => none.elim
    rintro next h₂ ⟨entry, stage, own, falls, wrote, status⟩
    have turn : Turn g node entry [sendingOf h.record node a config] stage :=
      turn kind ordinary own (falls.comes at_.found kind own)
    exact ⟨entry, _, stage, turn, sent.wrote.trans wrote, status, falls.nodeId, fun calm => absurd calm upset⟩

theorem done_spec (at_ : Visits k g h node) (kind : node.task = .action a) (ordinary : a.kind.parks = false)
    (sent : Dispatched k node a config calm h h₁) (output : Members) (message : String)
    (data : Option Members) (discreet : calm → s.Discreet h.record.id) :
    (Held.change (fun e => { e with vars := Ordered.overlay e.vars output }) >>= fun _ =>
      log s node.id (actionLabel node a) .success message data >>= fun _ =>
        successor h.record.graph node.id >>= fun next => pure (some next)).Ensures h₁
      (fun next h' => ∃ entry new stage, Acted k g node calm h next h' entry new stage) (Balked k calm h) := by
  refine Act.ensures_bind.mpr (ensures_change.mpr (Act.ensures_bind.mpr ?_))
  by_cases lost : k.record h₁.desk.world h₁.record.id = none
  · refine (log_lost ?_ ?_ ..).mono (fun _ _ none => none.elim) fun _ _ missing => sent.balked at_ lost missing
    · exact sent.wrote.valid
    · exact lost
  · obtain ⟨edge, mem, source, leads⟩ := successor_of_action (σ := σ) at_.sound at_.found kind
    refine (log_stored (k := k) ?_ ?_ ..).mono ?_ fun _ _ none => none.elim
    · exact sent.wrote.valid
    · exact lost
    rintro - h₂ ⟨record, wrote, -, cancels⟩
    rw [at_.graph, leads]
    have changed := Wrote.of_change (k := k) (h := h₁) sent.wrote.valid
      (e := { h₁.record with vars := Ordered.overlay h₁.record.vars output }) ⟨rfl, rfl, rfl⟩ rfl rfl
    refine ⟨_, _, .ahead edge.target, turn kind ordinary rfl (.onto ?_ (by simp [kind])),
      (sent.wrote.trans changed).trans wrote, ?_, rfl, fun calm => ⟨by simp [Stage.status], ?_⟩⟩
    · exact leads_of_action kind at_.found mem source
    · rw [record]
      show h₁.record.status = .running
      rw [sent.record, at_.running]
    · rw [cancels (by simpa [sent.record] using discreet calm)]
      exact (sent.calm calm).1

end Dispatched

theorem perform_spec (limits : Limits) (at_ : Visits k g h node) (kind : node.task = .action a)
    (ordinary : a.kind.parks = false) : (perform s limits node a).Ensures h
      (fun next h' => ∃ entry new stage, Acted k g node (Calm s limits h node) h next h' entry new stage)
      (Balked k (Calm s limits h node) h) := by
  refine Act.ensures_bind.mpr ((rendered_spec a).mono ?_ ?_)
  · rintro config h₀ ⟨render, rfl⟩
    refine Act.ensures_bind.mpr (ensures_current.mpr (Act.ensures_bind.mpr ?_))
    have smooth (calm : Calm s limits h₀ node) : (∃ result, (send s (sendingOf h₀.record node a config)
        (a.timeout.or limits.timeout) h₀).1 = .ok (.ok result)) ∧
        ∀ effect ∈ (s.respond (sendingOf h₀.record node a config) h₀.desk.world).1, harmless effect := by
      have smooth := calm.1
      simpa [Smooth, kind, ordinary, render] using smooth
    refine ((Act.Ensures.run _ h₀).and (send_spec at_.valid at_.claimed rfl _)).mono ?_ fun _ _ none => none.2.elim
    rintro answer h₁ ⟨run, wrote, record, -, quiet⟩
    have sent : Dispatched k node a config (Calm s limits h₀ node) h₀ h₁ :=
      ⟨wrote, record, fun calm => quiet (smooth calm).2⟩
    cases answer with
    | error message =>
      refine sent.failed_spec at_ kind ordinary message ?_
      intro calm
      obtain ⟨⟨result, came⟩, -⟩ := smooth calm
      cases (congrArg Prod.fst run).symm.trans came
    | ok result => exact sent.done_spec at_ kind ordinary result.output _ _ fun calm => calm.2
  · rintro f h₀ ⟨⟨fault, rfl, unrendered⟩, rfl⟩
    refine ⟨by simp, rfl, .inr ⟨rfl, at_.valid, rfl, rfl, k.drift_refl _⟩, ?_⟩
    intro calm
    have smooth := calm.1
    simp [Smooth, kind, unrendered] at smooth

/-- Nothing has happened yet at a visit that balks. -/
theorem Balked.of_unchanged {calm : Prop} {f : Failure} (valid : k.valid h.desk.world)
    (cause : ∀ fault, f ≠ .run fault) (upset : ¬ calm) : Balked k calm h f h :=
  ⟨cause, rfl, .inr ⟨rfl, valid, rfl, rfl, k.drift_refl _⟩, upset⟩

theorem decide_spec (limits : Limits) (at_ : Visits k g h node) {expression : String}
    (kind : node.task = .condition expression) : (decide s node expression).Ensures h
      (fun next h' => ∃ entry new stage, Acted k g node (Calm s limits h node) h next h' entry new stage)
      (Balked k (Calm s limits h node) h) := by
  have turn {entry : LogEntry} {stage : Stage} (own : entry.nodeId = node.id)
      (comes : Comes g node entry stage) : Turn g node entry [] stage := by
    refine ⟨own, ?_, comes⟩
    simp [Node.ordinary?, kind]
  have goes : node.task ≠ .finish := by simp [kind]
  refine Act.ensures_bind.mpr (ensures_current.mpr ?_)
  split
  · rename_i fault value
    have upset : ¬ Calm s limits h node := fun calm => by
      have smooth := calm.1
      simp [Smooth, kind, value] at smooth
    split
    · refine Act.ensures_bind.mpr ((log_stored at_.valid at_.stored ..).mono ?_ fun _ _ none => none.elim)
      rintro - h₁ ⟨record, wrote, -, -⟩
      have can : h₁.record.status.canBecome .failed := by rw [record]; exact at_.can_become rfl
      refine change_become_spec wrote.valid ⟨rfl, rfl, rfl⟩ rfl rfl can ?_
      intro h₂ moved _ failed
      exact ⟨_, _, .stopped node.id, turn rfl (.stops goes), wrote.trans failed, moved.status, rfl,
        fun calm => absurd calm upset⟩
    · exact Balked.of_unchanged at_.valid (by simp) upset
  · rename_i b value
    refine Act.ensures_bind.mpr ((log_stored at_.valid at_.stored ..).mono ?_ fun _ _ none => none.elim)
    rintro - h₁ ⟨record, wrote, -, cancels⟩
    obtain ⟨edge, chosen⟩ := at_.sound.condition_leads node (Graph.mem_of_node? at_.found).1 expression
      kind (.ofBool b)
    have mem : edge ∈ (g.outgoing node.id).filter fun edge => edge.branch = some (.ofBool b) := by
      simp [chosen]
    obtain ⟨out, branch⟩ := List.mem_filter.mp mem
    obtain ⟨mem, source⟩ := Graph.mem_edges_of_outgoing out
    rw [at_.graph, chosen]
    refine ⟨_, _, .ahead edge.target, turn rfl (.onto ⟨edge, mem, source, rfl, ?_⟩ goes),
      wrote, ?_, rfl, fun calm => ⟨by simp [Stage.status], cancels calm.2⟩⟩
    · intro _ _ _ _
      exact ⟨.ofBool b, rfl, by simpa using branch⟩
    · rw [record]
      exact at_.running

/-- What an action that parks leaves behind when it has not failed: nothing yet if the run is to wait, and
one entry if the wait is over. -/
inductive Parked (k : Ledger s) (g : Graph) (node : Node) (h : Held σ) : Parking → Held σ → Prop where
  | waits (wait : Wait) (message : String) : Parked k g node h (.waits wait message) h
  | goesOn {edge : Edge} {entry : LogEntry} {h' : Held σ} (mem : edge ∈ g.edges) (source : edge.source = node.id)
    (own : entry.nodeId = node.id) (wrote : Wrote k [entry] [] h h')
    (status : h'.record.status = h.record.status)
    (cancels : s.Discreet h.record.id → h'.desk.cancels = h.desk.cancels) :
    Parked k g node h (.goesOn edge.target) h'

theorem parking_spec (at_ : Visits k g h node) (kind : node.task = .action a) (time : Instant)
    (config : Members) : (parking s node a time config).Ensures h (Parked k g node h)
      fun f h' => h' = h ∧ (∀ fault, f ≠ .run fault) ∧ ¬ Useful a config h.record.vars time := by
  unfold parking
  split
  · rename_i delay
    simp only [Act.ensures_bind, Act.ensures_lift, Act.ensures_pure]
    refine ⟨fun seconds length => ⟨fun later fits => .waits _ _, ?_⟩, ?_⟩
    · intro fault unfit
      refine ⟨trivial, by simp, ?_⟩
      intro useful
      simp [Useful, delay, length, unfit] at useful
    · intro fault unfit
      refine ⟨trivial, by simp, ?_⟩
      intro useful
      simp [Useful, delay, unfit] at useful
  · rename_i delay
    simp only [Act.ensures_bind, Act.ensures_lift, ensures_current]
    refine ⟨fun expression given => ⟨?_, ?_⟩, ?_⟩
    · intro holds value
      split
      · rename_i met
        obtain ⟨edge, mem, source, leads⟩ := successor_of_action (σ := σ) at_.sound at_.found kind
        refine Act.ensures_bind.mpr ((log_stored at_.valid at_.stored ..).mono ?_ fun _ _ none => none.elim)
        rintro - h₁ ⟨record, wrote, -, cancels⟩
        rw [at_.graph, leads]
        exact .goesOn mem source rfl wrote (by rw [record]; rfl) cancels
      · rename_i unmet
        simp only [Act.ensures_bind, Act.ensures_lift]
        constructor
        · intro limit some_limit
          cases limit with
          | none => exact .waits _ _
          | some seconds =>
            simp only [Act.ensures_bind, Act.ensures_map, Act.ensures_lift, Act.ensures_pure]
            refine ⟨fun later fits => .waits _ _, fun fault unfit => ⟨trivial, by simp, ?_⟩⟩
            intro useful
            simp [Useful, delay, given, value, unmet, some_limit, unfit] at useful
        · intro fault unfit
          refine ⟨trivial, by simp, ?_⟩
          intro useful
          simp [Useful, delay, given, value, unmet, unfit] at useful
    · intro fault bad
      refine ⟨trivial, by simp, ?_⟩
      intro useful
      simp [Useful, delay, given, bad] at useful
    · intro fault unfit
      refine ⟨trivial, by simp, ?_⟩
      intro useful
      simp [Useful, delay, unfit] at useful

theorem park_spec (limits : Limits) (at_ : Visits k g h node) (kind : node.task = .action a)
    (parks : a.kind.parks = true) : (park s node a).Ensures h
      (fun next h' => ∃ entry new stage, Acted k g node (Calm s limits h node) h next h' entry new stage)
      (Balked k (Calm s limits h node) h) := by
  have turn {entry : LogEntry} {stage : Stage} (own : entry.nodeId = node.id)
      (comes : Comes g node entry stage) : Turn g node entry [] stage := by
    refine ⟨own, ?_, comes⟩
    simp [Node.ordinary?, kind, parks]
  have goes : node.task ≠ .finish := by simp [kind]
  refine Act.ensures_bind.mpr (ensures_now.mpr (Act.ensures_bind.mpr ((rendered_spec a).mono ?_ ?_)))
  · rintro config h₀ ⟨render, rfl⟩
    have useful (calm : Calm s limits h₀ node) : Useful a config h₀.record.vars (s.now h₀.desk.world) := by
      have smooth := calm.1
      simpa [Smooth, kind, parks, render] using smooth
    refine Act.ensures_bind.mpr (Act.ensures_attempt.mpr ((parking_spec at_ kind _ config).mono ?_ ?_))
    · rintro parked h₁ (⟨wait, message⟩ | ⟨mem, source, own, wrote, status, cancels⟩)
      · refine Act.ensures_bind.mpr ((log_stored at_.valid at_.stored ..).mono ?_ fun _ _ none => none.elim)
        rintro - h₁ ⟨record, wrote, -, cancels⟩
        have can : h₁.record.status.canBecome .waiting := by rw [record]; exact at_.can_become rfl
        refine change_become_spec wrote.valid ⟨rfl, rfl, rfl⟩ rfl rfl can ?_
        intro h₂ moved desk waits
        exact ⟨_, _, .parked node.id, turn rfl (.waits kind parks), wrote.trans waits, moved.status, rfl,
          fun calm => ⟨by simp [Stage.status], by rw [desk]; exact cancels calm.2⟩⟩
      · refine ⟨_, _, .ahead _, turn own (.onto ?_ goes), wrote, ?_, rfl,
          fun calm => ⟨by simp [Stage.status], cancels calm.2⟩⟩
        · exact leads_of_action kind (own ▸ at_.found) mem (source.trans own.symm)
        · rw [status]
          exact at_.running
    · rintro f h₁ ⟨rfl, cause, useless⟩
      have upset : ¬ Calm s limits h₁ node := fun calm => useless (useful calm)
      dsimp only
      split
      · refine (actionFailed_spec at_.sound at_.found kind at_.graph at_.running at_.valid at_.stored
          _).mono ?_ fun _ _ none => none.elim
        rintro next h₂ ⟨entry, stage, own, falls, wrote, status⟩
        exact ⟨entry, _, stage, turn own (falls.comes at_.found kind own), wrote, status, falls.nodeId,
          fun calm => absurd calm upset⟩
      · exact Balked.of_unchanged at_.valid cause upset
  · rintro f h₀ ⟨⟨fault, rfl, unrendered⟩, rfl⟩
    refine .of_unchanged at_.valid (by simp) ?_
    intro calm
    have smooth := calm.1
    simp [Smooth, kind, unrendered] at smooth

end Acts

end TriggerFlow.Run
