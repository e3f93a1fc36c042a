import TriggerFlow.Proofs.Run.Drive

/-!
# How drives begin

A drive is an opening followed by visits. A run that has not begun comes to the node after its trigger; a
waiting run leaves the node where it is parked, or stays, or fails there. On a valid graph neither finds
anything amiss.
-/

namespace TriggerFlow.Run

variable {σ : Type} {s : Surroundings σ} {k : Ledger s} {g : Graph} {h h' : Held σ} {limits : Limits}

/-- A bound for the ranks that a run can still come to. -/
def reach (g : Graph) (rank : String → Nat) (e : Execution) : Nat :=
  match e.nodeId with
  | some id => rank id
  | none => g.nodes.length

/-- How an opening has turned out. -/
structure Opened (k : Ledger s) (g : Graph) (calm : Prop) (h : Held σ) (go : Bool) (h' : Held σ) : Prop where
  live : Live k g h'
  going : go = true → h'.record.status = .running ∧ ∀ rank id, g.Ranking rank →
    h'.record.nodeId = some id → rank id < reach g rank h.record
  staying : go = false → h.record.status = .waiting ∧
    (h' = h ∨ h'.record.status = .failed ∧ h.record.log.length < h'.record.log.length)
  calm : calm → h'.record.status ≠ .failed ∧ h'.desk.cancels = h.desk.cancels

/-- An opening has failed and left everything as it was, but for the time. -/
structure Refused (calm : Prop) (h : Held σ) (failure : Failure) (h' : Held σ) : Prop where
  unchanged : h' = h
  cause : ∀ fault, failure ≠ .run fault
  upset : ¬ calm

theorem begin_spec (sound : g.Valid) (live : Live k g h) (pending : h.record.status = .pending) :
    (begin s).Ensures h (fun go h' => go = true ∧ Opened k g True h go h') fun _ _ => False := by
  obtain ⟨trail, nowhere⟩ := live.course.pending pending
  obtain ⟨node, t, edge, trigger, leads⟩ := sound.exists_entrance
  have target : successor (σ := σ) g node.id = pure edge.target := by simp [successor, leads]
  have out : edge ∈ g.outgoing node.id := by simp [leads]
  obtain ⟨mem, source⟩ := Graph.mem_edges_of_outgoing out
  refine Act.ensures_bind.mpr (((become_spec ?_).and (keeps_become _ h live.ready)).mono ?_
    fun _ _ none => none.1.elim)
  · rw [pending]
    rfl
  rintro - h₁ ⟨⟨moved, desk⟩, p⟩
  refine Act.ensures_bind.mpr (ensures_current.mpr ?_)
  rw [moved.run.graph, live.graph, trigger]
  dsimp only
  rw [target]
  refine (Act.ensures_bind_of_ok rfl).mpr (Act.ensures_bind.mpr ?_)
  refine (((goOn_spec p.ready.valid _).and (keeps_goOn _ h₁ p.ready)).mono ?_ fun _ _ none => none.1.elim)
  rintro - h₂ ⟨⟨record, cancels, becomes⟩, p'⟩
  have status : h₂.record.status = .running := by rw [record]; exact moved.status
  have nodeId : h₂.record.nodeId = some edge.target := by rw [record]; rfl
  have status' : h₂.record.status = (Stage.ahead edge.target).status := status
  refine ⟨rfl, ?_, fun _ => ⟨status, ?_⟩, by simp, fun _ => ⟨by simp [status], ?_⟩⟩
  · refine live.of_stored (p.trans p') ?_ (.going ?_ status' nodeId)
    · rw [desk, p.run.id] at becomes
      exact becomes
    · obtain ⟨log, calls⟩ := trail.eq_nil_of_unbegun
      have log' : h₂.record.log = [] := by rw [record]; exact moved.log.trans log
      rw [log', calls]
      exact .entered ⟨node, t, edge, trigger, leads, rfl⟩
  · intro rank id ranking at_id
    rw [nodeId] at at_id
    cases at_id
    rw [reach, nowhere]
    exact (ranking.down edge mem).trans_le (ranking.bound _)
  · rw [cancels, desk]

/-- What a look at a waiting run comes to. -/
def lookAt (e : Execution) (time : Instant) (context : Members) : Except Failure Look :=
  look (e.wait.getD ⟨none, none, none⟩) (Ordered.overlay e.vars context) time

/-- A look at the run neither fails nor makes the run fail. -/
def Undisturbed (e : Execution) (time : Instant) (context : Members) : Prop :=
  ∃ found, lookAt e time context = .ok found ∧ ∀ message, found ≠ .failed message

theorem look_cause {wait : Wait} {vars : Members} {time : Instant} {f : Failure}
    (failed : look wait vars time = .error f) (fault : RunFault) : f ≠ .run fault := by
  rintro rfl
  have mixed {r : Except TimeFault Bool} {x : Bool → Except Failure Look}
      (failed : (r.mapError Failure.time >>= x) = .error (.run fault)) :
      ∃ b, r = .ok b ∧ x b = .error (.run fault) := by
    cases r with
    | error fault => cases failed
    | ok b => exact ⟨b, rfl, failed⟩
  obtain ⟨late, -, failed⟩ := mixed failed
  split at failed
  · cases failed
  split at failed
  · cases failed
  split at failed
  · split at failed <;> cases failed
  · cases failed
  · split at failed
    · cases failed
    · obtain ⟨late, -, failed⟩ := mixed failed
      split at failed <;> cases failed

/-- A run that has been taken up where it was parked, before anything is logged. -/
structure TakenUp (k : Ledger s) (h h' : Held σ) : Prop where
  wrote : Wrote k [] [] h h'
  status : h'.record.status = .running
  vars : h'.record.vars = h.record.vars
  desk : h'.desk = h.desk
  proceeds : Proceeds k h h'

theorem takeUp_spec (live : Live k g h) (waits : h.record.status = .waiting) {α : Type}
    {x : Unit → Act (Held σ) α} {good : α → Held σ → Prop} {bad : Failure → Held σ → Prop}
    (after : ∀ h', TakenUp k h h' → (x ()).Ensures h' good bad) :
    (become s .running >>= fun _ => Held.change (fun e => { e with wait := none }) >>= x).Ensures h good bad := by
  refine Act.ensures_bind.mpr (((become_spec ?_).and (keeps_become _ h live.ready)).mono ?_
    fun _ _ none => none.1.elim)
  · rw [waits]
    rfl
  rintro - h₁ ⟨⟨moved, desk⟩, p⟩
  refine Act.ensures_bind.mpr (ensures_change.mpr (after _ ⟨?_, moved.status, moved.vars, desk, ?_⟩))
  · exact (moved.wrote desk live.ready.valid).trans (.of_change p.ready.valid ⟨rfl, rfl, rfl⟩ rfl rfl)
  · exact p.trans (.of_change p.ready ⟨rfl, rfl, rfl⟩ (List.prefix_refl _))

/-- A waiting run in hand, at the action that has parked it. -/
structure Resting (k : Ledger s) (g : Graph) (h : Held σ) (node : Node) (a : Action) : Prop where
  live : Live k g h
  waits : h.record.status = .waiting
  here : h.record.nodeId = some node.id
  found : g.node? node.id = some node
  kind : node.task = .action a
  trail : Trail g h.record.log (k.calls h.desk.world h.record.id) (.parked node.id)

/-- A run waits nowhere else. -/
theorem Live.resting (live : Live k g h) (waits : h.record.status = .waiting) : ∃ node a, Resting k g h node a ∧
    a.kind.parks = true := by
  obtain ⟨id, trail, here⟩ := live.course.waiting waits
  obtain ⟨node, a, found, kind, parks⟩ := trail.parks
  obtain rfl := (Graph.mem_of_node? found).2
  exact ⟨node, a, ⟨live, waits, here, found, kind, trail⟩, parks⟩

namespace Resting

variable {node : Node} {a : Action} {calm : Prop} {h₁ h₂ : Held σ}

/-- The run has come to the end of an edge. -/
theorem opened_ahead (rests : Resting k g h node a) {edge : Edge} (mem : edge ∈ g.edges)
    (source : edge.source = node.id) {entries : List LogEntry} (at_stage : At k g (.ahead edge.target) entries h')
    (quiet : calm → h'.desk.cancels = h.desk.cancels) : Opened k g calm h true h' := by
  have running : h'.record.status = .running := at_stage.status
  refine ⟨at_stage.live, fun _ => ⟨running, ?_⟩, by simp, fun calm => ⟨by simp [running], quiet calm⟩⟩
  intro rank id ranking at_id
  rw [at_stage.nodeId] at at_id
  cases at_id
  rw [reach, rests.here]
  exact source ▸ ranking.down edge mem

/-- The run goes on along the edge that leads on from where it was parked. -/
theorem depart_spec (sound : g.Valid) (rests : Resting k g h node a) {notes : List LogEntry}
    (short : notes.length ≤ 1) (own : ∀ entry ∈ notes, entry.nodeId = node.id) (wrote : Wrote k notes [] h h₂)
    (p : Proceeds k h h₂) (running : h₂.record.status = .running)
    (quiet : calm → h₂.desk.cancels = h.desk.cancels) :
    (Held.current >>= fun e => successor e.graph node.id >>= fun next => goOn s (some next) >>= fun _ =>
      pure true).Ensures h₂ (fun go h' => go = true ∧ Opened k g calm h go h') fun _ _ => False := by
  obtain ⟨edge, mem, source, leads⟩ := successor_of_action (σ := σ) sound rests.found rests.kind
  have trail : Trail g (h.record.log ++ notes) (k.calls h.desk.world h.record.id ++ []) (.ahead edge.target) := by
    rw [List.append_nil]
    exact .woken rests.trail short own mem source
  have status : h₂.record.status = (Stage.ahead edge.target).status := running
  refine Act.ensures_bind.mpr (ensures_current.mpr ?_)
  rw [p.run.graph, rests.live.graph, leads]
  refine (Act.ensures_bind_of_ok rfl).mpr (Act.ensures_bind.mpr ?_)
  refine (goOn_at rests.live rests.here wrote p status rfl trail).mono ?_ fun _ _ none => none
  rintro - h₃ ⟨at_stage, kept⟩
  exact ⟨rfl, rests.opened_ahead mem source at_stage fun calm => kept.trans (quiet calm)⟩

/-- The wait has failed, and the run goes on or stops there. -/
theorem overdue_spec (sound : g.Valid) (rests : Resting k g h node a) (up : TakenUp k h h₁) (message : String)
    (upset : ¬ calm) : (actionFailed s node a message >>= fun next => goOn s next >>= fun _ =>
      pure next.isSome).Ensures h₁ (Opened k g calm h) fun _ _ => False := by
  have present : k.record h₁.desk.world h₁.record.id ≠ none := by
    rw [up.desk, up.wrote.run.id]
    exact rests.live.present
  have failed := (actionFailed_spec (s := s) sound rests.found rests.kind
    (up.wrote.run.graph.trans rests.live.graph) up.status up.wrote.valid present message).and
    (keeps_actionFailed _ _ message h₁ up.proceeds.ready)
  refine Act.ensures_bind.mpr (failed.mono ?_ fun _ _ none => none.1)
  rintro next h₂ ⟨⟨entry, stage, own, falls, wrote, status⟩, p⟩
  have trail : Trail g (h.record.log ++ [entry]) (k.calls h.desk.world h.record.id ++ []) stage := by
    rw [List.append_nil]
    cases falls with
    | stops => exact .overdue rests.trail own
    | goesOn mem source => exact .woken rests.trail (le_refl 1) (by simp [own]) mem source
  refine Act.ensures_bind.mpr ((goOn_at rests.live rests.here (up.wrote.trans wrote) (up.proceeds.trans p) status
    falls.nodeId trail).mono ?_ fun _ _ none => none)
  rintro - h₃ ⟨at_stage, -⟩
  cases falls with
  | stops =>
    have longer : h.record.log.length < h₃.record.log.length := by simp [at_stage.log]
    exact ⟨at_stage.live, by simp, fun _ => ⟨rests.waits, .inr ⟨at_stage.status, longer⟩⟩,
      fun calm => absurd calm upset⟩
  | goesOn mem source => exact rests.opened_ahead mem source at_stage fun calm => absurd calm upset

/-- The wait is over, and the run goes on; a condition that is met is logged. -/
theorem met_spec (sound : g.Valid) (rests : Resting k g h node a) (up : TakenUp k h h₁) (condition : Option String)
    (discreet : calm → s.Discreet h.record.id) : ((match condition with
      | some expression =>
        log s node.id (actionLabel node a) .success ("Wait condition " ++ Text.quoted expression ++ " met") none
      | none => pure ()) >>= fun _ => Held.current >>= fun e => successor e.graph node.id >>= fun next =>
        goOn s (some next) >>= fun _ => pure true).Ensures h₁ (fun go h' => go = true ∧ Opened k g calm h go h')
      fun _ _ => False := by
  cases condition with
  | none =>
    have unnoted : ([] : List LogEntry).length ≤ 1 := Nat.zero_le 1
    exact rests.depart_spec sound unnoted (by simp) up.wrote up.proceeds up.status fun _ => by rw [up.desk]
  | some expression =>
    have present : k.record h₁.desk.world h₁.record.id ≠ none := by
      rw [up.desk, up.wrote.run.id]
      exact rests.live.present
    refine Act.ensures_bind.mpr (((log_stored up.wrote.valid present ..).and
      (keeps_log _ _ _ _ _ h₁ up.proceeds.ready)).mono ?_ fun _ _ none => none.1)
    rintro - h₂ ⟨⟨record, wrote, -, cancels⟩, p⟩
    have running : h₂.record.status = .running := by
      rw [record]
      exact up.status
    refine rests.depart_spec sound (le_refl 1) (by simp) (up.wrote.trans wrote) (up.proceeds.trans p) running ?_
    intro calm
    rw [cancels (by rw [up.wrote.run.id]; exact discreet calm), up.desk]

end Resting

theorem wake_spec (sound : g.Valid) (live : Live k g h) (waits : h.record.status = .waiting) (time : Instant)
    (context : Members) : (wake s time context).Ensures h
      (Opened k g (Undisturbed h.record time context ∧ s.Discreet h.record.id) h)
      (Refused (Undisturbed h.record time context ∧ s.Discreet h.record.id) h) := by
  obtain ⟨⟨id, label, position, task⟩, a, rests, parks⟩ := live.resting waits
  obtain rfl : task = .action a := rests.kind
  refine Act.ensures_bind.mpr (ensures_current.mpr ?_)
  rw [rests.here, live.graph, Option.bind_some, rests.found]
  dsimp only
  rw [if_neg (by simp [parks])]
  refine Act.ensures_bind.mpr (Act.ensures_lift.mpr ⟨?_, ?_⟩)
  · intro look looked
    cases look with
    | notDue => exact ⟨live, by simp, fun _ => ⟨waits, .inl rfl⟩, fun _ => ⟨by simp [waits], rfl⟩⟩
    | failed message =>
      refine takeUp_spec live waits fun h₁ up => (rests.overdue_spec sound up message ?_).mono
        (fun _ _ opened => opened) fun _ _ none => none.elim
      intro calm
      obtain ⟨⟨other, found, patient⟩, -⟩ := calm
      cases found.symm.trans looked
      exact patient message rfl
    | met condition =>
      refine takeUp_spec live waits fun h₁ up => ?_
      have discreet (calm : Undisturbed h.record time context ∧ s.Discreet h.record.id) : s.Discreet h.record.id :=
        calm.2
      have met := rests.met_spec sound up condition discreet
      cases condition <;> exact met.mono (fun _ _ opened => opened.2) fun _ _ none => none.elim
  · intro failure looked
    refine ⟨rfl, look_cause looked, ?_⟩
    intro calm
    obtain ⟨⟨other, found, -⟩, -⟩ := calm
    cases found.symm.trans looked

/-- How a drive ends if nothing breaks it off. -/
structure Finished (k : Ledger s) (g : Graph) (h h' : Held σ) : Prop where
  live : Live k g h'
  rests : h'.record.status ≠ .running
  grown : (h'.record = h.record ∧ h.record.status = .waiting) ∨
    h.record.log.length < h'.record.log.length

/-- What breaks a drive off: never the graph, and the budget only if it is smaller than the graph. -/
structure BrokenOff (k : Ledger s) (g : Graph) (limits : Limits) (failure : Failure) (h' : Held σ) : Prop where
  halted : Halted k g h'
  cause : ∀ fault, failure = .run fault →
    fault = .budgetExceeded limits.steps ∧ limits.steps.toNat < g.nodes.length

theorem reach_le {rank : String → Nat} (ranking : g.Ranking rank) (e : Execution) :
    reach g rank e ≤ g.nodes.length := by
  unfold reach
  split
  · exact ranking.bound _
  · exact le_refl g.nodes.length

/-- An opening that does its part on every run of the graph in a state. -/
def Begins (k : Ledger s) (g : Graph) (expected : Status) (opening : Act (Held σ) Bool) : Prop :=
  ∀ h, Live k g h → h.record.status = expected →
    ∃ calm, opening.Ensures h (Opened k g calm h) (Refused calm h)

theorem begins_begin (sound : g.Valid) : Begins k g .pending (begin s) := fun _ live status =>
  ⟨True, (begin_spec sound live status).mono (fun _ _ opened => opened.2) fun _ _ none => none.elim⟩

theorem begins_wakeAt (sound : g.Valid) (time : Option Instant) (context : Members) :
    Begins k g .waiting (wakeAt s time context) := fun _ live status =>
  ⟨_, wake_spec sound live status _ context⟩

theorem thenLoop_spec (limits : Limits) (sound : g.Valid) {opening : Act (Held σ) Bool} {calm : Prop}
    (live : Live k g h) (idle : h.record.status ≠ .running) (lives : h.record.status.canBecome .failed)
    (keeps : Keeps k opening)
    (opens : opening.Ensures h (Opened k g calm h) (Refused calm h)) :
    (thenLoop s limits opening).Ensures h (fun _ => Finished k g h) (BrokenOff k g limits) := by
  refine Act.ensures_bind.mpr ((opens.and (keeps h live.ready)).mono ?_ ?_)
  · rintro (_ | _) h₁ ⟨opened, p⟩
    · obtain ⟨waits, rfl | ⟨failed, longer⟩⟩ := opened.staying rfl
      · exact ⟨opened.live, idle, .inl ⟨rfl, waits⟩⟩
      · exact ⟨opened.live, by simp [failed], .inr longer⟩
    · obtain ⟨running, below⟩ := opened.going rfl
      refine (loop_spec sound limits.steps.toNat opened.live).mono ?_ ?_
      · exact fun _ h₂ rested => ⟨rested.live, rested.rests, .inr (p.log.length_le.trans_lt (rested.longer running))⟩
      · refine fun f h₂ broken => ⟨broken.halted, ?_⟩
        intro fault same
        obtain ⟨cause, far⟩ := broken.cause fault same
        obtain ⟨rank, ranking⟩ := sound.ranked
        obtain ⟨id, -, at_id⟩ := opened.live.course.running running
        have low := (far rank id ranking at_id).trans_lt (below rank id ranking at_id)
        exact ⟨cause, low.trans_le (reach_le ranking _)⟩
  · rintro f h₁ ⟨refused, -⟩
    refine ⟨⟨?_, .inr ?_⟩, fun fault same => absurd same (refused.cause fault)⟩
    · rw [refused.unchanged]
      exact lives
    · rw [refused.unchanged]
      exact live

theorem movedOn_spec (expected : Status) (valid : k.valid h.desk.world) :
    (movedOn s expected).Ensures h (fun moved h' =>
      moved = (k.record h.desk.world h.record.id).filter (fun stored => stored.status ≠ expected) ∧
        h'.record = h.record ∧ h'.desk = { h.desk with world := h'.desk.world } ∧
        k.Same h.desk.world h'.desk.world)
      fun _ _ => False := by
  refine Act.ensures_bind.mpr (ensures_current.mpr (Act.ensures_bind.mpr (ensures_inWorld.mpr ?_)))
  refine (k.load valid _).mono ?_ fun _ _ none => none
  rintro found w ⟨rfl, same⟩
  cases k.record h.desk.world h.record.id with
  | none => exact ⟨rfl, rfl, rfl, same⟩
  | some stored =>
    refine ⟨?_, rfl, rfl, same⟩
    by_cases expect : stored.status = expected <;> simp [Option.filter, expect]

/-- A look at the stored record takes no more time than loading it. -/
theorem movedOn_world (expected : Status) (h : Held σ) :
    (movedOn s expected h).2.desk.world = (s.load h.record.id h.desk.world).2 := by
  refine Act.Ensures.state (P := fun h' : Held σ => h'.desk.world = (s.load h.record.id h.desk.world).2) ?_
  refine Act.ensures_bind.mpr (ensures_current.mpr (Act.ensures_bind.mpr (ensures_inWorld.mpr ?_)))
  refine (Act.Ensures.run _ _).mono ?_ fun _ _ run => by rw [run]
  rintro (_ | stored) w run
  · exact (congrArg Prod.snd run).symm
  · exact (congrArg Prod.snd run).symm

theorem unlessMoved_spec (limits : Limits) (sound : g.Valid) {expected : Status} {opening : Act (Held σ) Bool}
    (live : Live k g h) (status : h.record.status = expected) (idle : expected = .pending ∨ expected = .waiting)
    (keeps : Keeps k opening) (begins : Begins k g expected opening) :
    (unlessMoved s expected (thenLoop s limits opening)).Ensures h
      (fun moved h' => moved = none ∧ Finished k g h h') (BrokenOff k g limits) := by
  have lives (next : Status) (ending : next = .failed ∨ next = .cancelled) : expected.canBecome next := by
    rcases idle with rfl | rfl <;> rcases ending with rfl | rfl <;> rfl
  refine Act.ensures_bind.mpr (((movedOn_spec expected live.ready.valid).and
    (keeps_movedOn expected h live.ready)).mono ?_ fun _ _ none => none.1.elim)
  rintro moved h₁ ⟨⟨rfl, record, -, same⟩, p⟩
  have live₁ := live.of_same p record same
  rw [live.stored, Option.filter_some, if_neg (by simp [status])]
  refine Act.ensures_bind.mpr (ensures_consumeCancel.mpr ?_)
  split
  · refine Act.ensures_bind.mpr ((cancel_live (live₁.of_cancels _) ?_).mono ?_ fun _ _ none => none.elim)
    · show h₁.record.status.canBecome .cancelled
      rw [record, status]
      exact lives .cancelled (.inr rfl)
    · rintro - h₂ ⟨live₂, cancelled, longer⟩
      exact ⟨rfl, live₂, by simp [cancelled], .inr (by rw [← record]; exact longer)⟩
  · obtain ⟨calm, opens⟩ := begins h₁ live₁ (by rw [record, status])
    refine Act.ensures_bind.mpr ((thenLoop_spec limits sound live₁ ?_ ?_ keeps opens).mono ?_ fun _ _ broken => broken)
    · rw [record, status]
      rcases idle with rfl | rfl <;> simp
    · rw [record, status]
      exact lives .failed (.inl rfl)
    · exact fun _ h₂ done => ⟨rfl, done.live, done.rests, by rw [← record]; exact done.grown⟩

end TriggerFlow.Run
