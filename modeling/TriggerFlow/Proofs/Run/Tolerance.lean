import TriggerFlow.Proofs.Run.Legs
import TriggerFlow.Proofs.Run.Outings
import TriggerFlow.Proofs.Run.Waiting

/-!
# Actions that are allowed to fail

An action may be told to go on after an error. Then a reply that is a failure, settings that are of no use to a delay or
a wait, a condition that cannot be evaluated any more and a deadline that has passed are logged, and the run goes on to
the node after the action. What breaks a leg off instead is never asked about: templates that cannot be filled in, points
in time that lie beyond the calendar or cannot be compared, and values that are too large. But for those, a run that has
failed is at a condition, or at an action that is not to go on.
-/

namespace TriggerFlow

/-- No failure gets past the node: it is a condition, or an action that is not to go on after an error. -/
def Node.Strict (node : Node) : Prop :=
  (∃ expression, node.task = .condition expression) ∨ ∃ a, node.task = .action a ∧ a.continueOnError = false

namespace Run

variable {σ : Type} {s : Surroundings σ} {k : Ledger s} {g : Graph} {limits : Limits} {entry : Entry} {h h' v : Held σ}
  {node : Node} {a : Action} {message : String}

/-- The action at the node of the run in hand fails in a way that the run takes note of. -/
inductive Mishap (s : Surroundings σ) (limits : Limits) (entry : Entry) (h : Held σ) (node : Node) (a : Action) :
    String → Prop
  | reply {config : Members} {message : String} (running : h.record.status = .running) (ordinary : a.kind.parks = false)
    (render : Template.renderMembers h.record.vars a.config = .ok config)
    (failed : (send s (sendingOf h.record node a config) (a.timeout.or limits.timeout) h).1 = .ok (.error message)) :
    Mishap s limits entry h node a message
  | settings {config : Members} {failure : Failure} (running : h.record.status = .running) (parks : a.kind.parks = true)
    (render : Template.renderMembers h.record.vars a.config = .ok config)
    (failed : (parking s node a (s.now h.desk.world) config h).1 = .error failure)
    (blames : failure.blamesValue = true) :
    Mishap s limits entry h node a failure.message
  | wait {time : Option Instant} {context : Members} {message : String} (waits : h.record.status = .waiting)
    (resumes : entry = .resume time context)
    (failed : lookAt h.record (time.getD (s.now h.desk.world)) context = .ok (.failed message)) :
    Mishap s limits entry h node a message

/-- The action at the node of the run in hand fails in a way that breaks the drive off. -/
inductive Escape (s : Surroundings σ) (entry : Entry) (h : Held σ) (node : Node) (a : Action) : Prop
  | rendering {fault : Path.Fault} (running : h.record.status = .running)
    (failed : Template.renderMembers h.record.vars a.config = .error fault)
  | settings {config : Members} {failure : Failure} (running : h.record.status = .running) (parks : a.kind.parks = true)
    (render : Template.renderMembers h.record.vars a.config = .ok config)
    (failed : (parking s node a (s.now h.desk.world) config h).1 = .error failure)
    (blames : failure.blamesValue = false)
  | wait {time : Option Instant} {context : Members} {failure : Failure} (waits : h.record.status = .waiting)
    (resumes : entry = .resume time context)
    (failed : lookAt h.record (time.getD (s.now h.desk.world)) context = .error failure)

/-- The failure of an action has been logged, and the run goes on at the node after it and is stored there. -/
structure Tolerated (k : Ledger s) (g : Graph) (node : Node) (a : Action) (message : String) (h h' : Held σ) :
    Prop where
  onto : ∃ edge, g.outgoing node.id = [edge] ∧ h'.record.nodeId = some edge.target
  log : ∃ time, h'.record.log = h.record.log ++ [⟨time, node.id, actionLabel node a, .error, message, none⟩]
  running : h'.record.status = .running
  vars : h'.record.vars = h.record.vars
  stored : k.record h'.desk.world h.record.id = some h'.record

section Tolerating

/-- The failure of an action has been logged, and the run is to go on to the node after it. -/
structure Noted (k : Ledger s) (g : Graph) (node : Node) (a : Action) (message : String) (h : Held σ)
    (next : Option String) (h' : Held σ) : Prop where
  onto : ∃ edge, g.outgoing node.id = [edge] ∧ next = some edge.target
  record : ∃ time, h'.record = logged h.record ⟨time, node.id, actionLabel node a, .error, message, none⟩
  valid : k.valid h'.desk.world

variable {next : Option String}

/-- Nothing but the log of the record has changed since a failure. -/
theorem Noted.of_same (noted : Noted k g node a message h next h') (same : h.record = v.record) :
    Noted k g node a message v next h' := ⟨noted.onto, same ▸ noted.record, noted.valid⟩

theorem Noted.goOn (noted : Noted k g node a message h next h') (running : h.record.status = .running) :
    (goOn s next).Ensures h' (fun _ h'' => Tolerated k g node a message h h'') fun _ _ => False := by
  obtain ⟨⟨edge, leads, rfl⟩, ⟨time, record⟩, valid⟩ := noted
  apply (goOn_spec valid _).mono _ fun _ _ none => none
  rintro _ h'' ⟨headed, -, becomes⟩
  refine ⟨⟨edge, leads, ?_⟩, ⟨time, ?_⟩, ?_, ?_, ?_⟩
  · rw [headed]
    rfl
  · rw [headed, record]
    rfl
  · rw [headed, record]
    exact running
  · rw [headed, record]
    rfl
  · have own : h'.record.id = h.record.id := by
      rw [record]
      rfl
    rw [becomes.record, own, Function.update_self]

/-- An action that is to go on after an error does so as long as the record of the run is stored. -/
theorem actionFailed_tolerates (sound : g.Valid) (found : g.node? node.id = some node) (kind : node.task = .action a)
    (graph : h.record.graph = g) (valid : k.valid h.desk.world)
    (stored : k.record h.desk.world h.record.id ≠ none) (tolerant : a.continueOnError = true) (message : String) :
    (actionFailed s node a message).Ensures h (fun next h' => Noted k g node a message h next h') fun _ _ => False := by
  obtain ⟨edge, leads⟩ := sound.action_leads node (Graph.mem_of_node? found).1 a kind
  refine Act.ensures_bind.mpr ((log_stored valid stored ..).mono ?_ fun _ _ none => none)
  rintro - h₁ ⟨record, wrote, -, -⟩
  refine Act.ensures_bind.mpr (ensures_current.mpr ?_)
  rw [if_pos tolerant, wrote.run.graph, graph, successor, leads]
  exact ⟨⟨edge, leads, rfl⟩, ⟨_, record⟩, wrote.valid⟩

/-- While an action is out, its run stays in hand as it is, and its record stays stored if it is spared. -/
theorem send_kept (ready : Ready k h) (spares : s.Spares h.record.id)
    (stored : k.record h.desk.world h.record.id ≠ none) {sending : Sending} (own : sending.runId = h.record.id) (limit : Option Binary64) :
    (send s sending limit).Ensures h (fun _ h' => h'.record = h.record ∧ k.valid h'.desk.world ∧
      k.record h'.desk.world h'.record.id ≠ none) fun _ _ => False := by
  have goes : (send s sending limit).Ensures h (fun _ => Proceeds k h) fun _ => Proceeds k h :=
    (proceeding k).goes_send ready own limit
  apply (goes.and (send_record sending limit)).mono _ fun _ _ none => none.2
  rintro answer h' ⟨p, record⟩
  exact ⟨record, p.ready.valid, record ▸ p.around.kept _ spares stored⟩

section Visit

variable (at_ : Visits k g h node) (kind : node.task = .action a) (tolerant : a.continueOnError = true)
include at_ kind tolerant

theorem perform_tolerates (ready : Ready k h) (spares : s.Spares h.record.id) (ordinary : a.kind.parks = false)
    (mishap : Mishap s limits entry h node a message) :
    (perform s limits node a).Ensures h (fun next h' => Noted k g node a message h next h') fun _ _ => False := by
  cases mishap with
  | settings _ parks => simp [ordinary] at parks
  | wait waits => cases at_.running.symm.trans waits
  | reply _ _ render failed =>
    refine Act.ensures_bind.mpr ((rendered_spec a).mono ?_ ?_)
    · rintro config' h₀ ⟨render', rfl⟩
      cases render.symm.trans render'
      refine Act.ensures_bind.mpr (ensures_current.mpr (Act.ensures_bind.mpr ?_))
      refine ((send_kept ready spares at_.stored rfl _).and (Act.Ensures.run _ h₀)).mono ?_ fun _ _ none => none.1
      rintro answer h₁ ⟨⟨record, valid, stored⟩, run⟩
      cases (congrArg Prod.fst run).symm.trans failed
      apply (actionFailed_tolerates at_.sound at_.found kind (record ▸ at_.graph) valid stored tolerant _).mono
        _ fun _ _ none => none
      exact fun _ _ noted => noted.of_same record
    · rintro _ h₀ ⟨⟨fault, -, render'⟩, -⟩
      cases render.symm.trans render'

theorem park_tolerates (parks : a.kind.parks = true) (mishap : Mishap s limits entry h node a message) :
    (park s node a).Ensures h (fun next h' => Noted k g node a message h next h') fun _ _ => False := by
  cases mishap with
  | reply _ ordinary => simp [parks] at ordinary
  | wait waits => cases at_.running.symm.trans waits
  | settings _ _ render failed blames =>
    refine Act.ensures_bind.mpr (ensures_now.mpr (Act.ensures_bind.mpr ((rendered_spec a).mono ?_ ?_)))
    · rintro config' h₀ ⟨render', rfl⟩
      cases render.symm.trans render'
      refine Act.ensures_bind.mpr (Act.ensures_attempt.mpr ?_)
      refine ((parking_spec at_ kind _ _).and (Act.Ensures.run _ h₀)).mono ?_ ?_
      · rintro parked h₁ ⟨-, run⟩
        cases (congrArg Prod.fst run).symm.trans failed
      · rintro failure h₁ ⟨⟨rfl, -, -⟩, run⟩
        cases (congrArg Prod.fst run).symm.trans failed
        dsimp only
        rw [if_pos blames]
        exact actionFailed_tolerates at_.sound at_.found kind at_.graph at_.valid at_.stored tolerant _
    · rintro _ h₀ ⟨⟨fault, -, render'⟩, -⟩
      cases render.symm.trans render'

end Visit

/-- A visit at which such an action fails goes on to the next node. -/
theorem visit_tolerates (sound : g.Valid) (live : Live k g h) (spares : s.Spares h.record.id)
    (running : h.record.status = .running) (here : h.record.nodeId = some node.id) (found : g.node? node.id = some node)
    (kind : node.task = .action a) (tolerant : a.continueOnError = true)
    (mishap : Mishap s limits entry h node a message) :
    (visit s limits).Ensures h (fun _ h' => Tolerated k g node a message h h') fun _ _ => False := by
  have at_ := live.visits sound running found
  have goesOn {x : Act (Held σ) (Option String)}
      (notes : x.Ensures h (fun next h' => Noted k g node a message h next h') fun _ _ => False) :
      (x >>= goOn s).Ensures h (fun _ h' => Tolerated k g node a message h h') fun _ _ => False :=
    Act.ensures_bind.mpr (notes.mono (fun _ _ noted => noted.goOn running) fun _ _ none => none)
  refine (Act.ensures_bind_of_ok (currentNode_ok live.graph here found)).mpr ?_
  rw [kind]
  cases parks : a.kind.parks with
  | true =>
    simp only [parks, if_true]
    exact goesOn (park_tolerates at_ kind tolerant parks mishap)
  | false =>
    simp only [parks, Bool.false_eq_true, if_false]
    exact goesOn (perform_tolerates at_ kind tolerant live.ready spares parks mishap)

/-- What has been tolerated since a waiting run was taken up has been tolerated since it waited. -/
theorem Tolerated.of_takenUp {h₁ : Held σ} (tolerated : Tolerated k g node a message h₁ h') (up : TakenUp k h h₁) :
    Tolerated k g node a message h h' where
  onto := tolerated.onto
  log := by
    obtain ⟨time, log⟩ := tolerated.log
    exact ⟨time, by rw [log, up.wrote.log, List.append_nil]⟩
  running := tolerated.running
  vars := tolerated.vars.trans up.vars
  stored := up.wrote.run.id ▸ tolerated.stored

/-- So does the run that is woken up there if its wait has failed. -/
theorem wake_tolerates (sound : g.Valid) {time : Instant} {context : Members} (rests : Resting k g h node a)
    (parks : a.kind.parks = true) (tolerant : a.continueOnError = true)
    (looked : lookAt h.record time context = .ok (.failed message)) : (wake s time context).Ensures h
      (fun go h' => go = true ∧ Tolerated k g node a message h h') fun _ _ => False := by
  obtain ⟨live, waits, here, found, kind, -⟩ := rests
  obtain ⟨id, label, position, task⟩ := node
  obtain rfl : task = .action a := kind
  refine Act.ensures_bind.mpr (ensures_current.mpr ?_)
  rw [here, live.graph, Option.bind_some, found]
  dsimp only
  rw [if_neg (by simp [parks])]
  refine (Act.ensures_bind_of_ok
    (show Act.lift _ _ h = (.ok (.failed message), h) by rw [← lookAt, looked]; rfl)).mpr ?_
  refine takeUp_spec live waits fun h₁ up => ?_
  have present : k.record h₁.desk.world h₁.record.id ≠ none := by
    rw [up.desk, up.wrote.run.id]
    exact live.present
  have graph : h₁.record.graph = g := up.wrote.run.graph.trans live.graph
  have fails := actionFailed_tolerates (s := s) sound found rfl graph up.wrote.valid present tolerant message
  refine Act.ensures_bind.mpr (fails.mono ?_ fun _ _ none => none)
  intro next h₂ noted
  refine Act.ensures_bind.mpr ((noted.goOn up.status).mono ?_ fun _ _ none => none)
  intro _ h₃ tolerated
  obtain ⟨edge, -, rfl⟩ := noted.onto
  exact ⟨rfl, tolerated.of_takenUp up⟩

/-- The opening of a drive begins with the run in hand as it was. -/
theorem live_of_unmoved {expected : Status} {h'' : Held σ} (live : Live k g h)
    (unmoved : movedOn s expected h = (.ok none, h')) (unasked : consumeCancel h' = (.ok false, h'')) :
    Live k g h'' ∧ h''.record = h.record := by
  obtain ⟨⟨-, record, -, same⟩, p⟩ := ((movedOn_spec expected live.ready.valid).and
    (keeps_movedOn expected h live.ready)).of_ok unmoved
  have live' := live.of_same p record same
  obtain rfl := ((consumeCancel_live live').of_ok unasked).1 rfl
  exact ⟨live', record⟩

/-- On whatever leg of a drive such an action fails, the run goes on to the next node. -/
theorem Takes.tolerates {leg : Leg σ} (sound : g.Valid) (live : Live k g h) (spares : s.Spares h.record.id)
    (status : h.record.status = entry.expected) (takes : Takes s limits entry h leg)
    (here : leg.before.record.nodeId = some node.id) (found : g.node? node.id = some node)
    (kind : node.task = .action a) (tolerant : a.continueOnError = true) (mishap : Mishap s limits entry leg.before node a message) :
    leg.result = .ok true ∧ Tolerated k g node a message leg.before leg.after := by
  cases takes with
  | @opens h' h'' w result unmoved unasked opened =>
    obtain ⟨live'', record⟩ := live_of_unmoved live unmoved unasked
    have begun : h''.record.status = entry.expected := record ▸ status
    cases mishap with
    | reply running => cases entry <;> cases running.symm.trans begun
    | settings running => cases entry <;> cases running.symm.trans begun
    | @wait time context _ waits resumes failed =>
      subst resumes
      obtain ⟨node', a', rests, parks⟩ := live''.resting waits
      have same : node' = node := by
        have ids : some node'.id = some node.id := rests.here.symm.trans here
        exact Option.some.inj (rests.found.symm.trans (Option.some.inj ids ▸ found))
      subst same
      cases rests.kind.symm.trans kind
      have tolerates := wake_tolerates sound rests parks tolerant failed
      have woken : wake s (time.getD (s.now h''.desk.world)) context h'' = (result, w) := opened
      cases result with
      | error failure => exact (tolerates.of_error woken).elim
      | ok go =>
        obtain ⟨rfl, tolerated⟩ := tolerates.of_ok woken
        exact ⟨rfl, tolerated⟩
  | @visits v w result mem visited =>
    obtain ⟨live', running⟩ := visitsOf_live limits sound live status (entry.begins sound) mem
    have keeps : Keeps k (entry.opening s) := entry.keeps_opening (proceeding k).toStoring
    have own : v.record.id = h.record.id := (visitsOf_sameRun keeps live.ready mem).id
    have tolerates := visit_tolerates sound live' (own ▸ spares) running here found kind tolerant mishap
    cases result with
    | error failure => exact (tolerates.of_error visited).elim
    | ok _ => exact ⟨rfl, tolerates.of_ok visited⟩

end Tolerating

section Escaping

/-- Where a run has failed, if no failure gets past its node or a failure of some kind has escaped there. -/
def Blamed (g : Graph) (e : Execution) (escapes : Node → Prop) : Prop :=
  ∃ node, g.node? node.id = some node ∧ e.nodeId = some node.id ∧ (node.Strict ∨ escapes node)

theorem Blamed.mono {e : Execution} {escapes escapes' : Node → Prop} (blamed : Blamed g e escapes)
    (more : ∀ node, escapes node → escapes' node) : Blamed g e escapes' := by
  obtain ⟨node, found, here, why⟩ := blamed
  exact ⟨node, found, here, why.imp_right (more node)⟩

/-- An act fails the run at a node that no failure gets past, and breaks off only there or by an escape. -/
def Answers (s : Surroundings σ) (g : Graph) (entry : Entry) {α : Type} (x : Act (Held σ) α) (h : Held σ) : Prop :=
  x.Ensures h (fun _ h' => h'.record.status = .failed → Blamed g h'.record fun _ => False)
    fun _ h' => Blamed g h'.record fun node =>
      ∃ a, h.record.nodeId = some node.id ∧ node.task = .action a ∧ Escape s entry h node a

/-- The work at a node that fails the run names no other node. -/
theorem Turned.of_failed {e r : Execution} {next : Option String} (turned : Turned node e next r)
    (running : e.status = .running) (failed : r.status = .failed) : next = none ∧ r.nodeId = e.nodeId := by
  cases turned with
  | leads _ on => cases failed.symm.trans (on.status.trans running)
  | fails on => exact ⟨rfl, on.nodeId⟩
  | parks => cases failed

/-- Only an action that is not to go on after an error fails the run. -/
theorem actionFailed_strict (running : h.record.status = .running) : (actionFailed s node a message).Ensures h
    (fun _ h' => h'.record.status = .failed → a.continueOnError = false) fun _ _ => True := by
  refine Act.ensures_bind.mpr ((log_onward _ _ _ _ _).mono ?_ fun _ _ _ => trivial)
  intro _ h₁ on
  refine Act.ensures_bind.mpr (ensures_current.mpr ?_)
  split
  · refine Act.ensures_bind.mpr (ensures_successor (fun next => ?_) fun _ => trivial)
    intro failed
    cases failed.symm.trans (on.status.trans running)
  · rename_i strict
    exact (fail_turned node message (on.status.trans running)).mono (fun _ _ _ _ => by simpa using strict)
      fun _ _ _ => trivial

section Visit

variable (at_ : Visits k g h node) (kind : node.task = .action a)
include at_ kind

/-- Carrying an action out breaks off only if its templates cannot be filled in. -/
theorem perform_escapes (limits : Limits) (entry : Entry) (ready : Ready k h) (spares : s.Spares h.record.id) :
    (perform s limits node a).Ensures h (fun _ h' => h'.record.status = .failed → a.continueOnError = false)
      fun _ _ => Escape s entry h node a := by
  refine Act.ensures_bind.mpr ((rendered_spec a).mono ?_ ?_)
  · rintro config h₀ ⟨render, rfl⟩
    refine Act.ensures_bind.mpr (ensures_current.mpr (Act.ensures_bind.mpr ?_))
    refine (send_kept ready spares at_.stored rfl _).mono ?_ fun _ _ none => none.elim
    rintro answer h₁ ⟨record, valid, stored⟩
    have running : h₁.record.status = .running := record ▸ at_.running
    have graph : h₁.record.graph = g := record ▸ at_.graph
    cases answer with
    | error message =>
      have fails := actionFailed_spec at_.sound at_.found kind graph running valid stored message
      exact (fails.and (actionFailed_strict running)).mono (fun _ _ spec => spec.2) fun _ _ none => none.1.elim
    | ok result =>
      obtain ⟨edge, -, -, leads⟩ := successor_of_action (σ := σ) at_.sound at_.found kind
      refine Act.ensures_bind.mpr (ensures_change.mpr (Act.ensures_bind.mpr ?_))
      refine (log_stored (k := k) ?_ ?_ ..).mono ?_ fun _ _ none => none.elim
      · exact valid
      · exact stored
      rintro - h₂ ⟨record', -⟩
      rw [at_.graph, leads]
      intro failed
      rw [record'] at failed
      cases failed.symm.trans running
  · rintro _ h₀ ⟨⟨fault, -, render⟩, -⟩
    exact .rendering at_.running render

/-- Parking breaks off only if the templates cannot be filled in, or the settings fail in a way that blames no value. -/
theorem park_escapes (entry : Entry) (parks : a.kind.parks = true) :
    (park s node a).Ensures h (fun _ h' => h'.record.status = .failed → a.continueOnError = false)
      fun _ _ => Escape s entry h node a := by
  refine Act.ensures_bind.mpr (ensures_now.mpr (Act.ensures_bind.mpr ((rendered_spec a).mono ?_ ?_)))
  · rintro config h₀ ⟨render, rfl⟩
    refine Act.ensures_bind.mpr (Act.ensures_attempt.mpr ?_)
    refine ((parking_spec at_ kind _ _).and (Act.Ensures.run _ h₀)).mono ?_ ?_
    · rintro parked h₁ ⟨⟨wait, message⟩ | ⟨mem, source, own, wrote, status, cancels⟩, -⟩
      · refine Act.ensures_bind.mpr ((log_stored at_.valid at_.stored ..).mono ?_ fun _ _ none => none.elim)
        rintro - h₁ ⟨record, wrote, -, -⟩
        have can : h₁.record.status.canBecome .waiting := by rw [record]; exact at_.can_become rfl
        refine change_become_spec wrote.valid ⟨rfl, rfl, rfl⟩ rfl rfl can ?_
        intro h₂ moved _ _ failed
        cases failed.symm.trans moved.status
      · intro failed
        cases failed.symm.trans (status.trans at_.running)
    · rintro failure h₁ ⟨⟨rfl, -, -⟩, run⟩
      dsimp only
      split
      · have fails :=
          actionFailed_spec at_.sound at_.found kind at_.graph at_.running at_.valid at_.stored failure.message
        exact (fails.and (actionFailed_strict at_.running)).mono (fun _ _ spec => spec.2) fun _ _ none => none.1.elim
      · rename_i blameless
        exact .settings at_.running parks render (congrArg Prod.fst run) (by simpa using blameless)
  · rintro _ h₀ ⟨⟨fault, -, render⟩, -⟩
    exact .rendering at_.running render

end Visit

theorem visit_escapes (limits : Limits) (entry : Entry) (sound : g.Valid) (live : Live k g h)
    (spares : s.Spares h.record.id) (running : h.record.status = .running) :
    Answers s g entry (visit s limits) h := by
  obtain ⟨node, at_, here, trail, quiet⟩ := live.arrived sound running
  have found := at_.found
  have goesOn {x : Act (Held σ) (Option String)} {escapes : Prop} (keeps : Keeps k x)
      (turns : x.Ensures h (fun next h' => Turned node h.record next h'.record) fun _ h' => Onward h.record h'.record)
      (strict : x.Ensures h (fun _ h' => h'.record.status = .failed → node.Strict) fun _ _ => node.Strict ∨ escapes)
      (escaping : escapes → ∃ a, h.record.nodeId = some node.id ∧ node.task = .action a ∧ Escape s entry h node a) :
      Answers s g entry (x >>= goOn s) h := by
    refine Act.ensures_bind.mpr (((turns.and strict).and (keeps h live.ready)).mono ?_ ?_)
    · rintro next h₁ ⟨⟨turned, strict⟩, p⟩
      refine ((goOn_record next).and (goOn_spec p.ready.valid next)).mono ?_ fun _ _ none => none.2.elim
      rintro _ h₂ ⟨record, -⟩ failed
      rw [record, headed_status] at failed
      obtain ⟨rfl, at_node⟩ := turned.of_failed running failed
      exact ⟨node, found, by rw [record]; exact at_node.trans here, .inl (strict failed)⟩
    · rintro _ h₁ ⟨⟨on, strict⟩, -⟩
      exact ⟨node, found, on.nodeId.trans here, strict.imp_right escaping⟩
  refine (Act.ensures_bind_of_ok (currentNode_ok live.graph here found)).mpr ?_
  split
  · rename_i a kind
    have strictly {x : Act (Held σ) (Option String)} (escapes : x.Ensures h
        (fun _ h' => h'.record.status = .failed → a.continueOnError = false) fun _ _ => Escape s entry h node a) :
        x.Ensures h (fun _ h' => h'.record.status = .failed → node.Strict)
          fun _ _ => node.Strict ∨ Escape s entry h node a :=
      escapes.mono (fun _ _ strict failed => .inr ⟨a, kind, strict failed⟩) fun _ _ => .inr
    cases parks : a.kind.parks with
    | true =>
      exact goesOn (keeps_park node a) (park_turned node a kind parks running)
        (strictly (park_escapes at_ kind entry parks)) fun escape => ⟨a, here, kind, escape⟩
    | false =>
      exact goesOn (keeps_perform limits node a) (perform_turned limits node a running)
        (strictly (perform_escapes at_ kind limits entry live.ready spares)) fun escape => ⟨a, here, kind, escape⟩
  · rename_i expression kind
    have strict : node.Strict := .inl ⟨expression, kind⟩
    exact goesOn (keeps_decide node expression) (decide_turned node expression running)
      ((decide_turned node expression running).mono (fun _ _ _ _ => strict) fun _ _ _ => .inl strict) False.elim
  · rename_i kind
    refine (finish_spec limits live running found here trail kind).mono ?_ fun _ _ none => none.elim
    rintro - h' ⟨entry, stage, visited⟩ failed
    obtain ⟨new, turn⟩ := visited.turn
    have status := visited.status
    rw [failed] at status
    cases turn.comes with
    | stops unfinished => exact absurd kind unfinished
    | _ => cases status
  · rename_i t kind
    exact absurd kind (quiet t)

/-- A look at a waiting run fails it at the action that has parked it, or breaks off. -/
theorem wake_escapes (sound : g.Valid) (live : Live k g h) (waits : h.record.status = .waiting)
    (time : Option Instant) (context : Members) :
    Answers s g (.resume time context) (wake s (time.getD (s.now h.desk.world)) context) h := by
  obtain ⟨⟨id, label, position, task⟩, a, rests, parks⟩ := live.resting waits
  have here := rests.here
  have found := rests.found
  obtain rfl : task = .action a := rests.kind
  refine Act.ensures_bind.mpr (ensures_current.mpr ?_)
  rw [here, live.graph, Option.bind_some, found]
  dsimp only
  rw [if_neg (by simp [parks])]
  refine Act.ensures_bind.mpr (Act.ensures_lift.mpr ⟨?_, ?_⟩)
  · intro look looked
    cases look with
    | notDue => exact fun failed => nomatch failed.symm.trans waits
    | failed message =>
      refine takeUp_spec live waits fun h₁ up => ?_
      have present : k.record h₁.desk.world h₁.record.id ≠ none := by
        rw [up.desk, up.wrote.run.id]
        exact live.present
      have graph : h₁.record.graph = g := up.wrote.run.graph.trans live.graph
      have fails := actionFailed_spec (s := s) sound found rfl graph up.status up.wrote.valid present message
      have turns := actionFailed_turned (s := s) ⟨id, label, position, .action a⟩ a message up.status
      refine Act.ensures_bind.mpr (((fails.and turns).and (actionFailed_strict up.status)).mono ?_ ?_)
      · rintro next h₂ ⟨⟨⟨entry, stage, -, -, wrote, -⟩, turned⟩, strict⟩
        have goes := (goOn_record (s := s) next).and (goOn_spec (k := k) wrote.valid next)
        refine Act.ensures_bind.mpr (goes.mono ?_ fun _ _ none => none.2.elim)
        rintro _ h₃ ⟨record, -⟩ failed
        rw [record, headed_status] at failed
        obtain ⟨rfl, at_node⟩ := turned.of_failed up.status failed
        have still : h₃.record.nodeId = some id := by rw [record]; exact (at_node.trans up.wrote.nodeId).trans here
        exact ⟨_, found, still, .inl (.inr ⟨a, rfl, strict failed⟩)⟩
      · exact fun _ _ none => none.1.1.elim
    | met condition =>
      refine takeUp_spec live waits fun h₁ up => ?_
      have undisturbed : False → s.Discreet h.record.id := False.elim
      have met := rests.met_spec sound up condition undisturbed
      have running (go : Bool) (h' : Held σ) (opened : go = true ∧ Opened k g False h go h') :
          h'.record.status = .failed → Blamed g h'.record fun _ => False :=
        fun failed => nomatch failed.symm.trans (opened.2.going opened.1).1
      cases condition <;> exact met.mono running fun _ _ none => none.elim
  · intro failure looked
    exact ⟨_, found, here, .inr ⟨a, rfl, rfl, .wait waits rfl looked⟩⟩

theorem Entry.opening_escapes (sound : g.Valid) (live : Live k g h) (status : h.record.status = entry.expected) :
    Answers s g entry (entry.opening s) h := by
  cases entry with
  | start =>
    apply (begin_spec sound live status).mono _ fun _ _ none => none.elim
    rintro go h' ⟨rfl, opened⟩ failed
    cases failed.symm.trans (opened.going rfl).1
  | resume time context => exact wake_escapes sound live status time context

/-- A failure of the action at a node has broken off the drive of what is in hand. -/
def Strays (s : Surroundings σ) (limits : Limits) (entry : Entry) (h : Held σ) (node : Node) : Prop :=
  ∃ leg failure a, Takes s limits entry h leg ∧ leg.result = .error failure ∧
    leg.before.record.nodeId = some node.id ∧ node.task = .action a ∧ Escape s entry leg.before node a

/-- A loop is broken off by its budget, or it leaves the run where a visit has failed it or has broken off. -/
theorem loop_escapes (limits : Limits) (entry : Entry) (sound : g.Valid) {escapes : Node → Prop} :
    ∀ (budget : Nat) {h : Held σ}, Live k g h → s.Spares h.record.id →
      (h.record.status = .failed → Blamed g h.record escapes) →
      (∀ v ∈ visits s limits budget h, ∀ failure w, visit s limits v = (.error failure, w) → ∀ node a,
        v.record.nodeId = some node.id → node.task = .action a → Escape s entry v node a → escapes node) →
      (loop s limits budget).Ensures h (fun _ h' => h'.record.status = .failed → Blamed g h'.record escapes)
        fun failure h' => (∃ fault, failure = .run fault) ∨ Blamed g h'.record escapes
  | budget, h, live, spares, blamed, broken => by
    have left {h' : Held σ} (left : Left k g h h') : h'.record.status = .failed → Blamed g h'.record escapes := by
      rcases left.as_was with ⟨same, -⟩ | ⟨cancelled, -⟩
      · exact same ▸ blamed
      · exact fun failed => nomatch failed.symm.trans cancelled
    have goes := mayVisit_spec live
    rcases run : mayVisit s h with ⟨_ | _ | _, h₁⟩
    · exact (goes.of_error run).elim
    · cases budget <;> exact (Act.ensures_bind_of_ok run).mpr (left (goes.of_ok run))
    obtain ⟨running, rfl⟩ := goes.of_ok run
    cases budget with
    | zero => exact (Act.ensures_bind_of_ok run).mpr (.inl ⟨_, rfl⟩)
    | succ budget =>
      refine (Act.ensures_bind_of_ok run).mpr ?_
      rw [if_pos rfl]
      have answers := visit_escapes limits entry sound live spares running
      rcases run' : visit s limits h₁ with ⟨failure | _, h₂⟩
      · rw [visits_of_failure run run'] at broken
        refine (Act.ensures_bind_of_error run').mpr (.inr ?_)
        apply (answers.of_error run').mono
        rintro node ⟨a, here, kind, escape⟩
        exact broken h₁ (List.mem_singleton_self _) failure h₂ run' node a here kind escape
      · rw [visits_of_visit run run'] at broken
        obtain ⟨_, _, _, _, _, visited⟩ := (visit_spec limits sound live running).of_ok run'
        have own : h₂.record.id = h₁.record.id := ((keeps_visit limits h₁ live.ready).of_ok run').run.id
        refine (Act.ensures_bind_of_ok run').mpr
          (loop_escapes limits entry sound budget visited.live (own ▸ spares) ?_ ?_)
        · exact fun failed => ((answers.of_ok run') failed).mono fun _ none => none.elim
        · exact fun v mem => broken v (List.mem_cons_of_mem _ mem)

/-- What is done with a stored record in hand is broken off by the budget of visits, or it leaves the run where a leg has
failed it or has broken off. -/
theorem Entry.body_escapes (limits : Limits) (sound : g.Valid) (live : Live k g h) (spares : s.Spares h.record.id)
    (status : h.record.status = entry.expected) : (entry.body s limits).Ensures h
      (fun _ h' => h'.record.status = .failed → Blamed g h'.record (Strays s limits entry h))
      fun failure h' => (∃ fault, failure = .run fault) ∨ Blamed g h'.record (Strays s limits entry h) := by
  have moved := (movedOn_spec entry.expected live.ready.valid).and (keeps_movedOn entry.expected h live.ready)
  rcases run : movedOn s entry.expected h with ⟨_ | found, h₁⟩
  · exact (moved.of_error run).1.elim
  obtain ⟨⟨rfl, record, -, same⟩, p⟩ := moved.of_ok run
  have asked := consumeCancel_live (live.of_same p record same)
  rw [live.stored, Option.filter_some, if_neg (by simp [status])] at run
  refine (Act.ensures_bind_of_ok run).mpr ?_
  rcases run₂ : consumeCancel h₁ with ⟨_ | _ | _, h₂⟩
  · exact (asked.of_error run₂).elim
  · obtain ⟨live₂, same⟩ := live_of_unmoved live run run₂
    have answers := entry.opening_escapes sound live₂ (by rw [same, status])
    refine (Act.ensures_bind_of_ok run₂).mpr (Act.ensures_bind.mpr ?_)
    rcases run₃ : entry.opening s h₂ with ⟨failure | go, h₃⟩
    · refine (Act.ensures_bind_of_error run₃).mpr (.inr ((answers.of_error run₃).mono ?_))
      rintro node ⟨a, here, kind, escape⟩
      exact ⟨_, failure, a, .opens run run₂ run₃, rfl, here, kind, escape⟩
    refine (Act.ensures_bind_of_ok run₃).mpr ?_
    have blamed : h₃.record.status = .failed → Blamed g h₃.record (Strays s limits entry h) :=
      fun failed => (answers.of_ok run₃ failed).mono fun _ none => none.elim
    cases go with
    | false => exact blamed
    | true =>
      obtain ⟨calm, opens⟩ := entry.begins sound h₂ live₂ (by rw [same, status])
      have live₃ := (opens.of_ok run₃).live
      have keeps : Keeps k (entry.opening s) := entry.keeps_opening (proceeding k).toStoring
      have own : h₃.record.id = h.record.id := ((keeps h₂ live₂.ready).of_ok run₃).run.id.trans (by rw [same])
      apply loop_escapes limits entry sound limits.steps.toNat live₃ (own ▸ spares) blamed
      intro v mem failure w visited node a here kind escape
      rw [← visitsOf_of_go run run₂ run₃] at mem
      exact ⟨_, failure, a, .visits mem visited, rfl, here, kind, escape⟩
  · obtain ⟨-, live₂, record₂⟩ := asked.of_ok run₂
    refine (Act.ensures_bind_of_ok run₂).mpr (Act.ensures_bind.mpr ?_)
    refine (cancel_live live₂ ?_).mono ?_ fun _ _ none => none.elim
    · rw [record₂, record, status]
      cases entry <;> rfl
    · exact fun _ h₃ cancelled failed => nomatch failed.symm.trans cancelled.2.1

/-- If the budget lasts, a drive that has failed the run leaves it where a leg has failed it or has broken off. -/
theorem Entry.enter_escapes {d : Desk σ} {e : Execution} (limits : Limits) (sound : g.Valid)
    (live : Live k g (claimed d e)) (free : e.id ∉ d.active) (spares : s.Spares e.id)
    (enough : g.nodes.length ≤ limits.steps) (status : e.status = entry.expected) :
    (entry.enter s limits e).Ensures d (fun driven _ => driven.copy.status = .failed →
      Blamed g driven.copy (Strays s limits entry (claimed d e))) fun _ _ => True := by
  have keeps : Keeps k (entry.opening s) := entry.keeps_opening (proceeding k).toStoring
  have keeps_body := keeps_unlessMoved entry.expected (keeps_thenLoop limits keeps) (claimed d e) live.ready
  have idle : entry.expected = .pending ∨ entry.expected = .waiting := by cases entry <;> simp [expected]
  have spec := unlessMoved_spec limits sound live status idle keeps (entry.begins sound)
  have escapes := entry.body_escapes limits sound live spares status
  apply (Act.ensures_of_eq (entry.enter_eq limits free (entry.admits_of_status status))).mpr
  refine ensures_drive.mpr (Act.ensures_recover.mpr (((escapes.and spec).and keeps_body).mono ?_ ?_))
  · exact fun _ _ ended => ended.1.1
  · rintro failure h' ⟨⟨blamed, broken⟩, p⟩
    have blamed : Blamed g h'.record (Strays s limits entry (claimed d e)) := by
      refine blamed.resolve_left ?_
      rintro ⟨fault, same⟩
      have := (broken.cause fault same).2
      omega
    refine Act.ensures_bind.mpr ((abort_spec p.ready.valid broken.halted.lives failure).mono ?_ fun _ _ _ => trivial)
    rintro - h'' ⟨ended, noted, record, -⟩ -
    obtain ⟨node, found, here, why⟩ := blamed
    exact ⟨node, found, by rw [record]; exact here, why⟩

end Escaping

end Run

namespace Trial

open Run

/-- A delay with some settings that is to go on after an error. -/
def lenientDelay (settings : Members) : Node := ⟨"delay", "", none, .action ⟨.delay, settings, true, none⟩⟩

/-- A graph with that delay. -/
def lenient (settings : Members) : Graph :=
  ⟨[⟨"begin", "", none, .trigger ⟨.manual, []⟩⟩, lenientDelay settings, ⟨"end", "", none, .finish⟩],
   [⟨"out", "begin", "delay", none⟩, ⟨"on", "delay", "end", none⟩], 1⟩

/-- A length of time that is to be found among the variables. -/
def deferred : Members := [("seconds", .text "\x7b\x7blength\x7d\x7d")]

theorem deferred_sound : (lenient deferred).defects = .ok [] :=
  Graph.defects_of_sorted (by decide +kernel) (by decide +kernel) (by decide +kernel)

-- A delay that lasts beyond the calendar is no use either, but there the run fails all the same.
example : (start surroundings bounds (created (lenient [("seconds", .int (10 ^ 13))]))
    (atNine (lenient [("seconds", .int (10 ^ 13))]))).1.toOption.map (fun driven =>
      (driven.copy.status, driven.copy.nodeId)) = some (.failed, some "delay") := by
  decide +kernel

end Trial

end TriggerFlow
