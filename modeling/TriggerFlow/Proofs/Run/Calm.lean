import TriggerFlow.Proofs.Run.Visits

/-!
# Drives at which nothing goes wrong

If templates and expressions can be evaluated, actions that are sent out come back with a result, lengths of
time fit the calendar, points in time can be compared, and nobody asks for a stop, then a drive ends with the
run parked or at its end, as long as the budget of visits lasts.
-/

namespace TriggerFlow.Run

variable {σ : Type} {s : Surroundings σ} {k : Ledger s} {g : Graph} {h h' : Held σ}

/-- Nothing goes wrong at the node that the run in hand has come to. -/
def SmoothHere (s : Surroundings σ) (limits : Limits) (h : Held σ) : Prop :=
  ∀ node, h.record.nodeId.bind h.record.graph.node? = some node → Smooth s limits h node

/-- The look at a waiting run turns out well: the points in time can be compared with that of the look, the
condition can be evaluated, and it holds or is in time. -/
structure Patient (e : Execution) (time : Instant) (context : Members) : Prop where
  comparable : ∀ wait point, e.wait = some wait → wait.resumeAt = some point ∨ wait.deadline = some point →
    (time.order? point).isSome
  evaluates : ∀ wait expression, e.wait = some wait → wait.expression = some expression →
    ∃ b, Expr.holds expression (Ordered.overlay e.vars context) = .ok b
  inTime : ∀ wait expression point, e.wait = some wait → wait.expression = some expression →
    Expr.holds expression (Ordered.overlay e.vars context) = .ok false → wait.deadline = some point →
      before time point = .ok true

theorem before_of_comparable {a b : Instant} (comparable : (a.order? b).isSome) :
    ∃ late, before a b = .ok late := by
  obtain ⟨order, found⟩ := Option.isSome_iff_exists.mp comparable
  exact ⟨_, by rw [before, found]⟩

theorem Patient.undisturbed {e : Execution} {time : Instant} {context : Members}
    (patient : Patient e time context) : Undisturbed e time context := by
  unfold Undisturbed lookAt
  cases waits : e.wait with
  | none => exact ⟨.met none, rfl, nofun⟩
  | some wait =>
    obtain ⟨resumeAt, expression, deadline⟩ := wait
    have due : ∃ late, beforeSome time resumeAt = .ok late := by
      cases resumeAt with
      | none => exact ⟨false, rfl⟩
      | some point => exact before_of_comparable (patient.comparable _ point waits (.inl rfl))
    obtain ⟨late, due⟩ := due
    simp only [Option.getD_some, look, due]
    cases late with
    | true => exact ⟨.notDue, rfl, nofun⟩
    | false =>
      cases expression with
      | none => exact ⟨.met none, rfl, nofun⟩
      | some expression =>
        obtain ⟨b, value⟩ := patient.evaluates _ expression waits rfl
        cases b with
        | true => exact ⟨.met (some expression), by simp [value]; rfl, nofun⟩
        | false =>
          cases deadline with
          | none => exact ⟨.notDue, by simp [value]; rfl, nofun⟩
          | some point =>
            have early := patient.inTime _ expression point waits rfl value rfl
            exact ⟨.notDue, by simp [value, early]; rfl, nofun⟩

theorem mayVisit_calm (unasked : h.desk.cancels.contains h.record.id = false) : (mayVisit s).Ensures h
    (fun go h' => h' = h ∧ (go = true ↔ h.record.status = .running)) fun _ _ => False := by
  refine Act.ensures_bind.mpr (ensures_current.mpr ?_)
  split
  · rename_i idle
    refine Act.ensures_bind.mpr (Act.ensures_bind.mpr (ensures_current.mpr ?_))
    split
    · refine Act.ensures_bind.mpr (ensures_consumeCancel.mpr ?_)
      rw [unasked]
      exact ⟨rfl, by simp [idle]⟩
    · exact ⟨rfl, by simp [idle]⟩
  · rename_i running
    refine Act.ensures_bind.mpr (ensures_consumeCancel.mpr ?_)
    rw [unasked]
    exact ⟨rfl, by simpa using running⟩

/-- A run that waits or has come to its end. -/
def Rests (e : Execution) : Prop := e.status = .waiting ∨ e.status = .completed

theorem loop_calm (limits : Limits) (sound : g.Valid) : ∀ (budget : Nat) {h : Held σ},
    Live k g h → s.Discreet h.record.id → h.desk.cancels.contains h.record.id = false →
      (h.record.status ≠ .running → Rests h.record) →
      (∀ v ∈ visits s limits budget h, SmoothHere s limits v) →
        (loop s limits budget).Ensures h (fun _ h' => Live k g h' ∧ Rests h'.record)
          fun f _ => f = .run (.budgetExceeded limits.steps)
  | 0, h, live, _, unasked, rests, _ => by
    refine Act.ensures_bind.mpr ((mayVisit_calm unasked).mono ?_ fun _ _ none => none.elim)
    rintro (_ | _) h₁ ⟨rfl, going⟩
    · exact ⟨live, rests (by simpa using going)⟩
    · rfl
  | budget + 1, h, live, discreet, unasked, rests, smooth => by
    have goes := mayVisit_calm (s := s) unasked
    rcases run : mayVisit s h with ⟨_ | _ | _, h₁⟩
    · exact (goes.of_error run).elim
    · obtain ⟨rfl, going⟩ := goes.of_ok run
      exact (Act.ensures_bind_of_ok run).mpr ⟨live, rests (by simpa using going)⟩
    obtain ⟨rfl, going⟩ := goes.of_ok run
    have running : h₁.record.status = .running := by simpa using going
    refine (Act.ensures_bind_of_ok run).mpr ?_
    rw [if_pos rfl]
    have turned := visit_spec limits sound live running
    have calm {node : Node} (found : g.node? node.id = some node) (here : h₁.record.nodeId = some node.id)
        (mem : h₁ ∈ visits s limits (budget + 1) h₁) : Calm s limits h₁ node := by
      refine ⟨smooth h₁ mem node ?_, discreet⟩
      rw [here, live.graph, Option.bind_some, found]
    rcases run' : visit s limits h₁ with ⟨failure | _, h₂⟩
    · obtain ⟨node, found, here, foiled⟩ := turned.of_error run'
      refine absurd (calm found here ?_) foiled.upset
      simp [visits_of_failure run run']
    · obtain ⟨node, entry, stage, found, here, visited⟩ := turned.of_ok run'
      have p := (keeps_visit limits h₁ live.ready).of_ok run'
      have fine := visited.calm (calm found here (by simp [visits_of_visit run run']))
      refine (Act.ensures_bind_of_ok run').mpr (loop_calm limits sound budget visited.live ?_ ?_ ?_ ?_)
      · exact p.run.id ▸ discreet
      · rw [fine.2, p.run.id, unasked]
      · intro idle
        obtain ⟨new, turn⟩ := visited.turn
        cases turn.comes with
        | onto => exact absurd visited.status idle
        | waits => exact .inl visited.status
        | stops => exact absurd rfl fine.1
        | ends => exact .inr visited.status
      · exact fun v mem => smooth v (by simp [visits_of_visit run run', mem])

theorem unlessMoved_calm (limits : Limits) (sound : g.Valid) {expected : Status} {opening : Act (Held σ) Bool}
    {calm : Prop} (live : Live k g h) (status : h.record.status = expected)
    (discreet : s.Discreet h.record.id)
    (unasked : h.desk.cancels.contains h.record.id = false) (keeps : Keeps k opening)
    (opens : opening.Ensures (movedOn s expected h).2 (Opened k g calm (movedOn s expected h).2)
      (Refused calm (movedOn s expected h).2)) (holds : calm)
    (smooth : ∀ v ∈ visitsOf s limits expected opening h, SmoothHere s limits v) :
    (unlessMoved s expected (thenLoop s limits opening)).Ensures h
      (fun moved h' => moved = none ∧ Live k g h' ∧ Rests h'.record)
      fun f _ => f = .run (.budgetExceeded limits.steps) := by
  have moved := (movedOn_spec expected live.ready.valid).and (keeps_movedOn expected h live.ready)
  rcases run : movedOn s expected h with ⟨_ | found, h₁⟩
  · exact (moved.of_error run).1.elim
  obtain ⟨⟨rfl, record, desk, same⟩, p⟩ := moved.of_ok run
  have live₁ := live.of_same p record same
  rw [run] at opens
  rw [live.stored, Option.filter_some, if_neg (by simp [status])] at run
  have unasked₁ : h₁.desk.cancels.contains h₁.record.id = false := by rw [desk, record, unasked]
  have run₂ : consumeCancel h₁ = (.ok false, h₁) := by
    show Held.atDesk (Desk.consumeCancel h₁.record.id) h₁ = _
    unfold Held.atDesk Act.onPart Desk.consumeCancel
    simp only [unasked₁]
    rfl
  refine (Act.ensures_bind_of_ok run).mpr ((Act.ensures_bind_of_ok run₂).mpr (Act.ensures_bind.mpr ?_))
  dsimp only at opens
  rcases run₃ : opening h₁ with ⟨failure | _ | _, h₃⟩
  · exact absurd holds (opens.of_error run₃).upset
  · refine (Act.ensures_bind_of_ok run₃).mpr ?_
    have opened := opens.of_ok run₃
    refine ⟨rfl, opened.live, ?_⟩
    obtain ⟨waits, rfl | ⟨failed, -⟩⟩ := opened.staying rfl
    · exact .inl waits
    · exact absurd failed (opened.calm holds).1
  · rw [visitsOf_of_go run run₂ run₃] at smooth
    have opened := opens.of_ok run₃
    have p₃ := (keeps h₁ live₁.ready).of_ok run₃
    refine (Act.ensures_bind_of_ok run₃).mpr ?_
    refine (loop_calm limits sound _ opened.live ?_ ?_ ?_ smooth).mono ?_ fun _ _ same => same
    · rw [p₃.run.id, record]
      exact discreet
    · rw [(opened.calm holds).2, p₃.run.id, unasked₁]
    · exact fun idle => absurd (opened.going rfl).1 idle
    · exact fun _ h₄ rested => ⟨rfl, rested⟩

section Whole

variable {e : Execution} {d : Desk σ}

/-- The run in hand when its record has been claimed. -/
def claimed (d : Desk σ) (e : Execution) : Held σ := ⟨{ d with active := e.id :: d.active }, e⟩

theorem claimed_live (valid : k.valid d.world) (stored : k.record d.world e.id = some e) (graph : e.graph = g)
    (course : Course g e (k.calls d.world e.id)) : Live k g (claimed d e) := by
  refine ⟨⟨valid, List.mem_cons_self .., ?_⟩, graph, stored, course⟩
  intro e' present
  cases stored.symm.trans present
  exact .refl e

/-- A drive that nothing disturbs leaves the run parked or at its end, and the record stored. -/
theorem drive_calm {limits : Limits} {body : Act (Held σ) (Option Execution)} (keeps : Keeps k body)
    (live : Live k g (claimed d e))
    (calm : body.Ensures (claimed d e) (fun moved h' => moved = none ∧ Live k g h' ∧ Rests h'.record)
      fun f _ => f = .run (.budgetExceeded limits.steps))
    (enough : ∀ h', body (claimed d e) ≠ (.error (.run (.budgetExceeded limits.steps)), h')) :
    (drive s e body).Ensures { d with active := e.id :: d.active }
      (fun driven d' => k.record d'.world e.id = some driven.answer ∧ Rests driven.answer)
      fun _ _ => False := by
  refine ensures_drive.mpr (Act.ensures_recover.mpr ?_)
  refine (((Act.Ensures.run body _).and calm).and (keeps _ live.ready)).mono ?_ ?_
  · rintro moved h₁ ⟨⟨-, rfl, live₁, rests⟩, p⟩
    exact ⟨p.run.id ▸ live₁.stored, rests⟩
  · rintro f h₁ ⟨⟨run, rfl⟩, -⟩
    exact absurd run (enough h₁)

end Whole

end TriggerFlow.Run
