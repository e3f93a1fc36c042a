import TriggerFlow.Proofs.Run.Whole

/-!
# The nodes that a drive enters

The visits of a drive lead down the ranks of the graph, and what follows a wait lies below the node where the
run was parked. If nothing goes wrong at any visit, the drive ends with the run parked or at its end.
-/

namespace TriggerFlow.Run

variable {σ : Type} {s : Surroundings σ} {k : Ledger s} {g : Graph} {h h' : Held σ} {limits : Limits}
  {rank : String → Nat}

/-- The nodes that have been entered in some states. -/
def entered (states : List (Held σ)) : List String := states.filterMap fun h => h.record.nodeId

theorem Turn.nodeId_le {node : Node} {entry : LogEntry} {calls : List Sending} {stage : Stage}
    (turn : Turn g node entry calls stage) (ranking : g.Ranking rank) :
    ∃ id, stage.nodeId = some id ∧ rank id ≤ rank node.id := by
  have down := turn.height_le ranking
  cases turn.comes with
  | onto => exact ⟨_, rfl, (Nat.le_succ _).trans down⟩
  | waits | stops | ends => exact ⟨_, rfl, le_refl (rank node.id)⟩

/-- What is known of the visits of a loop. -/
structure Descends (k : Ledger s) (g : Graph) (rank : String → Nat) (h : Held σ) (states : List (Held σ)) : Prop where
  live : ∀ v ∈ states, Live k g v ∧ v.record.status = .running
  down : (entered states).Pairwise fun a b => rank b < rank a
  below : ∀ top, h.record.nodeId = some top → ∀ id ∈ entered states, rank id ≤ rank top

/-- A run that is parked in the end is parked below everything that it has entered before. -/
def ParksBelow (rank : String → Nat) (h : Held σ) (states : List (Held σ)) (h' : Held σ) : Prop :=
  h'.record.status = .waiting → ∀ id, h'.record.nodeId = some id →
    (∀ top, h.record.nodeId = some top → rank id ≤ rank top) ∧ ∀ other ∈ entered states, rank id ≤ rank other

theorem Left.parksBelow (left : Left k g h h') : ParksBelow rank h [] h' := by
  intro waits id here
  refine ⟨?_, fun _ none => nomatch none⟩
  intro top at_top
  rcases left.as_was with ⟨record, -⟩ | ⟨cancelled, -⟩
  · rw [record, at_top] at here
    cases here
    exact le_refl (rank id)
  · cases waits.symm.trans cancelled

/-- Nothing is entered before a loop comes to its first visit. -/
theorem Descends.nil : Descends k g rank h [] :=
  ⟨fun _ none => (List.not_mem_nil none).elim, List.Pairwise.nil, fun _ _ _ none => (List.not_mem_nil none).elim⟩

/-- A run that is not running enters no node. -/
theorem visits_eq_nil (live : Live k g h) (idle : h.record.status ≠ .running) (budget : Nat) :
    visits s limits budget h = [] := by
  cases budget with
  | zero => rfl
  | succ budget =>
    unfold visits
    rcases run : mayVisit s h with ⟨_ | _ | _, h₁⟩
    · rfl
    · rfl
    · exact absurd ((mayVisit_spec live).of_ok run).1 idle

theorem entered_cons {id : String} (here : h.record.nodeId = some id) (states : List (Held σ)) :
    entered (h :: states) = id :: entered states := by
  simp [entered, here]

/-- A visit comes before visits that enter lower nodes. -/
theorem Descends.cons {id : String} {states : List (Held σ)} (live : Live k g h)
    (running : h.record.status = .running) (here : h.record.nodeId = some id)
    (under : ∀ other ∈ entered states, rank other < rank id) (rest : Descends k g rank h' states) :
    Descends k g rank h (h :: states) := by
  refine ⟨List.forall_mem_cons.mpr ⟨⟨live, running⟩, rest.live⟩, ?_, ?_⟩
  · rw [entered_cons here]
    exact List.pairwise_cons.mpr ⟨under, rest.down⟩
  · intro top at_top other mem
    cases here.symm.trans at_top
    rw [entered_cons here] at mem
    rcases List.mem_cons.mp mem with rfl | mem
    · exact le_refl (rank other)
    · exact (under other mem).le

/-- What is parked below the visits that follow is parked below the one before them. -/
theorem ParksBelow.cons {id next : String} {states : List (Held σ)} {h'' : Held σ}
    (here : h.record.nodeId = some id) (at_next : h'.record.nodeId = some next) (low : rank next ≤ rank id)
    (parks : ParksBelow rank h' states h'') : ParksBelow rank h (h :: states) h'' := by
  intro waits m at_m
  obtain ⟨top, others⟩ := parks waits m at_m
  have below := (top next at_next).trans low
  constructor
  · intro top at_top
    cases here.symm.trans at_top
    exact below
  · intro other mem
    rw [entered_cons here] at mem
    rcases List.mem_cons.mp mem with rfl | mem
    · exact below
    · exact others other mem

/-- After a visit of a node, only lower ones are entered. -/
theorem Visited.under {node : Node} {calm : Prop} {entry : LogEntry} {stage : Stage} {budget : Nat}
    (ranking : g.Ranking rank) (visited : Visited k g node calm h h' entry stage)
    (descends : Descends k g rank h' (visits s limits budget h')) :
    ∀ other ∈ entered (visits s limits budget h'), rank other < rank node.id := by
  intro other mem
  by_cases going : h'.record.status = .running
  · obtain ⟨next, at_next, down⟩ := visited.descends ranking going
    exact (descends.below next at_next other mem).trans_lt down
  · rw [visits_eq_nil visited.live going] at mem
    cases mem

theorem visits_descend (limits : Limits) (sound : g.Valid) (ranking : g.Ranking rank) :
    ∀ (budget : Nat) {h : Held σ}, Live k g h → Descends k g rank h (visits s limits budget h) ∧
      (loop s limits budget).Ensures h (fun _ => ParksBelow rank h (visits s limits budget h)) fun _ _ => True
  | 0, h, live => by
    refine ⟨.nil, Act.ensures_bind.mpr ((mayVisit_spec live).mono ?_ fun _ _ _ => trivial)⟩
    rintro (_ | _) h₁ spec
    · exact Left.parksBelow spec
    · trivial
  | budget + 1, h, live => by
    have goes := mayVisit_spec live
    rcases run : mayVisit s h with ⟨_ | _ | _, h₁⟩
    · exact (goes.of_error run).elim
    · rw [visits_of_stay run]
      exact ⟨.nil, (Act.ensures_bind_of_ok run).mpr (Left.parksBelow (goes.of_ok run))⟩
    obtain ⟨running, rfl⟩ := goes.of_ok run
    obtain ⟨id, -, here⟩ := live.course.running running
    have turned := visit_spec limits sound live running
    rcases run' : visit s limits h₁ with ⟨failure | _, h₂⟩
    · rw [visits_of_failure run run']
      have alone : Descends k g rank h₁ [] := .nil
      refine ⟨.cons live running here (by simp [entered]) alone, (Act.ensures_bind_of_ok run).mpr ?_⟩
      rw [if_pos rfl]
      exact Act.ensures_bind.mpr ((Act.Ensures.run _ h₁).mono (fun _ _ ok => nomatch ok.symm.trans run')
        fun _ _ _ => trivial)
    rw [visits_of_visit run run']
    obtain ⟨node, entry, stage, found, at_node, visited⟩ := turned.of_ok run'
    obtain ⟨new, turn⟩ := visited.turn
    obtain ⟨next, at_next, low⟩ := turn.nodeId_le ranking
    obtain ⟨descends, parks⟩ := visits_descend limits sound ranking budget visited.live
    refine ⟨.cons live running at_node (visited.under ranking descends) descends, (Act.ensures_bind_of_ok run).mpr ?_⟩
    rw [if_pos rfl]
    refine (Act.ensures_bind_of_ok run').mpr (parks.mono ?_ fun _ _ _ => trivial)
    exact fun _ h₃ parks => parks.cons at_node (visited.nodeId.trans at_next) low

/-- What is known of the nodes that a whole drive enters, and of where it leaves the run. -/
structure Enters (g : Graph) (rank : String → Nat) (e : Execution) (states : List (Held σ)) : Prop where
  down : (entered states).Pairwise fun a b => rank b < rank a
  below : ∀ id ∈ entered states, rank id < reach g rank e

/-- A record that is parked lies below everything that has been entered, and not above another record. -/
def WaitsBelow (g : Graph) (rank : String → Nat) (e : Execution) (states : List (Held σ)) (e' : Execution) :
    Prop :=
  e'.status = .waiting → ∀ id, e'.nodeId = some id →
    rank id ≤ reach g rank e ∧ ∀ other ∈ entered states, rank id ≤ rank other

theorem Enters.nil {e : Execution} : Enters g rank e ([] : List (Held σ)) :=
  ⟨List.Pairwise.nil, fun _ none => (List.not_mem_nil none).elim⟩

/-- A record that is left as it was waits where it did. -/
theorem WaitsBelow.refl {e : Execution} : WaitsBelow g rank e ([] : List (Held σ)) e := by
  intro _ id at_id
  refine ⟨?_, fun _ none => (List.not_mem_nil none).elim⟩
  rw [reach, at_id]

/-- Taking up a request to cancel leaves the run as it is. -/
theorem consumeCancel_live (live : Live k g h) : (consumeCancel).Ensures h
    (fun asked h' => (asked = false → h' = h) ∧ Live k g h' ∧ h'.record = h.record) fun _ _ => False := by
  refine ensures_consumeCancel.mpr ?_
  split
  · exact ⟨by simp, live.of_cancels _, rfl⟩
  · exact ⟨fun _ => rfl, live, rfl⟩

theorem visitsOf_enters (limits : Limits) (sound : g.Valid) (ranking : g.Ranking rank) {expected : Status}
    {opening : Act (Held σ) Bool} (live : Live k g h) (status : h.record.status = expected)
    (idle : expected = .pending ∨ expected = .waiting) (begins : Begins k g expected opening) :
    Enters g rank h.record (visitsOf s limits expected opening h) ∧
      (unlessMoved s expected (thenLoop s limits opening)).Ensures h
        (fun _ h' => WaitsBelow g rank h.record (visitsOf s limits expected opening h) h'.record)
        fun _ _ => True := by
  have moved := (movedOn_spec expected live.ready.valid).and (keeps_movedOn expected h live.ready)
  rcases run : movedOn s expected h with ⟨_ | found, h₁⟩
  · exact (moved.of_error run).1.elim
  obtain ⟨⟨rfl, record, -, same⟩, p⟩ := moved.of_ok run
  have live₁ := live.of_same p record same
  rw [live.stored, Option.filter_some, if_neg (by simp [status])] at run
  have asked := consumeCancel_live live₁
  rcases run₂ : consumeCancel h₁ with ⟨_ | _ | _, h₂⟩
  · exact (asked.of_error run₂).elim
  · obtain rfl := (asked.of_ok run₂).1 rfl
    obtain ⟨calm, opens⟩ := begins h₂ live₁ (by rw [record, status])
    have rest {x : Act (Held σ) Unit} {good : Held σ → Prop}
        (does : x.Ensures h₂ (fun _ => good) fun _ _ => True) :
        (unlessMoved s expected x).Ensures h (fun _ => good) fun _ _ => True :=
      (Act.ensures_bind_of_ok run).mpr ((Act.ensures_bind_of_ok run₂).mpr
        (Act.ensures_bind.mpr does))
    rcases run₃ : opening h₂ with ⟨failure | _ | _, h₃⟩
    · rw [visitsOf_of_failure run run₂ run₃]
      refine ⟨.nil, rest (Act.ensures_bind.mpr ((Act.Ensures.run _ h₂).mono ?_ fun _ _ _ => trivial))⟩
      exact fun _ _ ok => nomatch ok.symm.trans run₃
    · rw [visitsOf_of_stay run run₂ run₃]
      refine ⟨.nil, rest ((Act.ensures_bind_of_ok run₃).mpr ?_)⟩
      obtain ⟨-, rfl | ⟨failed, -⟩⟩ := (opens.of_ok run₃).staying rfl
      · exact record ▸ WaitsBelow.refl
      · exact fun waits => nomatch waits.symm.trans failed
    · rw [visitsOf_of_go run run₂ run₃]
      have going := (opens.of_ok run₃).going rfl
      have live₃ := (opens.of_ok run₃).live
      obtain ⟨descends, parks⟩ := visits_descend limits sound ranking limits.steps.toNat live₃
      obtain ⟨top, -, at_top⟩ := live₃.course.running going.1
      have low := going.2 rank top ranking at_top
      rw [record] at low
      refine ⟨⟨descends.down, fun id mem => (descends.below top at_top id mem).trans_lt low⟩, ?_⟩
      refine rest ((Act.ensures_bind_of_ok run₃).mpr (parks.mono ?_ fun _ _ _ => trivial))
      intro _ h₄ parks waits id at_id
      obtain ⟨tops, others⟩ := parks waits id at_id
      exact ⟨(tops top at_top).trans low.le, others⟩
  · rw [visitsOf_of_cancel run run₂]
    refine ⟨.nil, (Act.ensures_bind_of_ok run).mpr ((Act.ensures_bind_of_ok run₂).mpr (Act.ensures_bind.mpr ?_))⟩
    obtain ⟨-, live₂, record₂⟩ := asked.of_ok run₂
    refine (cancel_live live₂ ?_).mono ?_ fun _ _ none => none.elim
    · rw [record₂, record, status]
      rcases idle with rfl | rfl <;> rfl
    · exact fun _ h₃ cancelled waits => nomatch waits.symm.trans cancelled.2.1

/-- Whenever a drive visits a node, the run is running, and stored as it is in hand. -/
theorem visitsOf_live (limits : Limits) (sound : g.Valid) {expected : Status} {opening : Act (Held σ) Bool}
    {v : Held σ} (live : Live k g h) (status : h.record.status = expected) (begins : Begins k g expected opening)
    (mem : v ∈ visitsOf s limits expected opening h) : Live k g v ∧ v.record.status = .running := by
  obtain ⟨rank, ranking⟩ := sound.ranked
  obtain ⟨h₁, h₂, h₃, moved, asked, opened, later⟩ := exists_opening mem
  obtain ⟨⟨-, record, -, same⟩, p⟩ := ((movedOn_spec expected live.ready.valid).and
    (keeps_movedOn expected h live.ready)).of_ok moved
  have live₁ := live.of_same p record same
  obtain rfl := ((consumeCancel_live live₁).of_ok asked).1 rfl
  obtain ⟨calm, opens⟩ := begins h₂ live₁ (by rw [record, status])
  exact (visits_descend limits sound ranking limits.steps.toNat (opens.of_ok opened).live).1.live v later

/-- Where a whole drive leaves the run, whether it is broken off or not. -/
theorem drive_enters (limits : Limits) (sound : g.Valid) (ranking : g.Ranking rank) {expected : Status}
    {opening : Act (Held σ) Bool} (live : Live k g h) (status : h.record.status = expected)
    (idle : expected = .pending ∨ expected = .waiting) (keeps : Keeps k opening)
    (begins : Begins k g expected opening) :
    Enters g rank h.record (visitsOf s limits expected opening h) ∧
      ((unlessMoved s expected (thenLoop s limits opening)).recover fun failure => do
        abort s failure
        pure none).Ensures h
        (fun _ h' => WaitsBelow g rank h.record (visitsOf s limits expected opening h) h'.record)
        fun _ _ => True := by
  obtain ⟨enters, waits⟩ := visitsOf_enters limits sound ranking live status idle begins
  refine ⟨enters, Act.ensures_recover.mpr ?_⟩
  refine ((waits.and (unlessMoved_spec limits sound live status idle keeps begins)).and
    (keeps_unlessMoved _ (keeps_thenLoop limits keeps) h live.ready)).mono ?_ ?_
  · exact fun _ _ ended => ended.1.1
  · rintro failure h₁ ⟨⟨-, broken⟩, p⟩
    refine Act.ensures_bind.mpr ((abort_live broken.halted p.ready failure).mono ?_ fun _ _ _ => trivial)
    exact fun _ h₂ aborted waits => nomatch waits.symm.trans aborted.1

end TriggerFlow.Run
