import TriggerFlow.Proofs.Run.Opening

/-!
# Drives that leave other runs alone

While an action runs, its dispatcher may have any run cancelled and lose the record of any run. If it does neither, a
drive changes no stored record but the one of its own run, and nobody comes to be asked to cancel another one.
-/

namespace TriggerFlow.Run

variable {σ : Type} {s : Surroundings σ} {k : Ledger s} {id : String} {d d' d'' : Desk σ}

/-- No run is cancelled, and no record lost, while an action runs. -/
def Surroundings.Harmless (s : Surroundings σ) : Prop := ∀ effect, s.Causes effect → harmless effect

/-- Other runs have been left alone. -/
structure Apart (k : Ledger s) (id : String) (d d' : Desk σ) : Prop where
  valid : k.valid d'.world
  records : ∀ other, other ≠ id → k.record d'.world other = k.record d.world other
  asked : ∀ other, other ≠ id → other ∈ d'.cancels → other ∈ d.cancels

namespace Apart

theorem trans (a : Apart k id d d') (b : Apart k id d' d'') : Apart k id d d'' where
  valid := b.valid
  records other ne := (b.records other ne).trans (a.records other ne)
  asked other ne asked := a.asked other ne (b.asked other ne asked)

/-- No stored record has changed. -/
theorem of_same (same : k.Same d.world d'.world)
    (asked : ∀ other, other ≠ id → other ∈ d'.cancels → other ∈ d.cancels) : Apart k id d d' := ⟨same.valid, fun other _ => congrFun same.record other, asked⟩

theorem refl (valid : k.valid d.world) : Apart k id d d :=
  .of_same ⟨valid, rfl, rfl, k.drift_refl _⟩ fun _ _ asked => asked

/-- The record of the run itself has changed. -/
theorem of_update {r : Option Execution}
    (becomes : k.Becomes d.world (Function.update (k.record d.world) id r) d'.world)
    (asked : ∀ other, other ≠ id → other ∈ d'.cancels → other ∈ d.cancels) : Apart k id d d' where
  valid := becomes.valid
  records other ne := by rw [becomes.record, Function.update_of_ne ne]
  asked := asked

end Apart

theorem eq_or_mem_of_mem_joined {run : String} {ids : List String} (mem : run ∈ joined id ids) :
    run = id ∨ run ∈ ids := by
  rw [joined] at mem
  split at mem
  · exact .inr mem
  · exact List.mem_cons.mp mem

theorem mem_of_mem_without {run : String} {ids : List String} (mem : run ∈ without id ids) : run ∈ ids :=
  (List.mem_filter.mp mem).1

/-- An entry in the log of a run asks for no other run to be cancelled. -/
theorem log_asks {h : Held σ} (nodeId action : String) (outcome : Outcome) (message : String) (data : Option Members) :
    (log s nodeId action outcome message data).Ensures h
      (fun _ h' => ∀ other, other ≠ h.record.id → other ∈ h'.desk.cancels → other ∈ h.desk.cancels)
      fun _ h' => ∀ other, other ≠ h.record.id → other ∈ h'.desk.cancels → other ∈ h.desk.cancels := by
  simp only [log, Act.ensures_bind, ensures_now, ensures_change, ensures_current, ensures_inWorld]
  apply (Act.Ensures.run _ _).mono
  · rintro (_ | _) w _ other ne asked
    · exact asked
    · exact (eq_or_mem_of_mem_joined asked).resolve_left ne
  · exact fun _ w _ other _ asked => asked

/-- A drive leaves other runs alone, if no harm is done while an action runs. -/
def keepingApart (k : Ledger s) (unharmed : s.Harmless) : Manner.Driving s where
  fits h := k.valid h.desk.world
  goes h h' := h'.record.id = h.record.id ∧ Apart k h.record.id h.desk h'.desk
  refl valid := ⟨rfl, .refl valid⟩
  trans a b := ⟨b.1.trans a.1, a.2.trans (a.1 ▸ b.2)⟩
  fits_of_goes a := a.2.valid
  change valid retouched := ⟨retouched.run.id, .refl valid⟩
  merges valid := ⟨rfl, .refl valid⟩
  log := by
    intro h valid nodeId action outcome message data
    apply ((log_spec (k := k) valid nodeId action outcome message data).and (log_asks _ _ _ _ _)).mono
    · rintro - h' ⟨⟨e, -, record, -, -, becomes⟩, asked⟩
      exact ⟨by rw [record]; rfl, .of_update becomes asked⟩
    · rintro - h' ⟨⟨-, -, record, -, same⟩, asked⟩
      exact ⟨by rw [record]; rfl, .of_same same asked⟩
  respond := by
    intro h sending valid own
    obtain ⟨valid', record, -⟩ := k.respond valid sending
    exact ⟨rfl, valid', fun other _ => congrFun record other, fun _ _ asked => asked⟩
  happen := by
    intro h effect valid caused
    have plain (records : afterEffect (k.record h.desk.world) effect = k.record h.desk.world) :
        (Held.inWorld (s.suffer effect)).Ensures h
          (fun _ h' => h'.record.id = h.record.id ∧ Apart k h.record.id h.desk h'.desk)
          fun _ h' => h'.record.id = h.record.id ∧ Apart k h.record.id h.desk h'.desk := by
      refine ensures_inWorld.mpr ((k.suffer_same valid records).mono ?_ ?_)
      · exact fun _ w same => ⟨rfl, .of_same same fun _ _ asked => asked⟩
      · exact fun _ w same => ⟨rfl, .of_same same fun _ _ asked => asked⟩
    cases effect with
    | pass micros => exact plain rfl
    | draw => exact plain rfl
    | cancel | forget => cases unharmed _ caused
  persist := by
    intro h valid
    apply (persist_spec (k := k) valid).mono _ fun _ _ none => none.elim
    rintro - h' ⟨record, desk, becomes⟩
    exact ⟨by rw [record], .of_update becomes (by rw [desk]; exact fun _ _ asked => asked)⟩
  consume := by
    intro h valid
    apply ensures_consumeCancel.mpr
    split
    · refine ⟨rfl, .of_same ⟨valid, rfl, rfl, k.drift_refl _⟩ ?_⟩
      exact fun other _ asked => mem_of_mem_without asked
    · exact ⟨rfl, .refl valid⟩
  moved := by
    intro expected h valid
    apply (movedOn_spec (k := k) expected valid).mono _ fun _ _ none => none.elim
    rintro _ h' ⟨-, record, desk, same⟩
    exact ⟨by rw [record], .of_same same (by rw [desk]; exact fun _ _ asked => asked)⟩

/-- To resume a run by a copy of it leaves other runs alone. -/
theorem resume_apart (unharmed : s.Harmless) (limits : Limits) (valid : k.valid d.world) (e : Execution)
    (time : Option Instant) (context : Members) :
    (resume s limits e time context).Ensures d (fun _ => Apart k e.id d) fun _ => Apart k e.id d := by
  unfold resume
  split
  · exact .refl valid
  refine Act.ensures_bind.mpr (ensures_claim.mpr ?_)
  split
  · exact .refl valid
  have released {h : Held σ} {settled : Bool} (left : Apart k e.id d h.desk) :
      Apart k e.id d (h.desk.released e.id settled) := by
    refine ⟨left.valid, left.records, fun other ne asked => left.asked other ne ?_⟩
    cases settled with
    | true => exact mem_of_mem_without asked
    | false => exact asked
  rw [resumeBody_now_eq]
  have keeps := (keepingApart k unharmed).keeps_unlessMoved .waiting
    ((keepingApart k unharmed).keeps_thenLoop limits ((keepingApart k unharmed).keeps_wakeAt time context))
  apply ensures_drive.mpr
  apply ((keepingApart k unharmed).keeps_aborting keeps ⟨{ d with active := e.id :: d.active }, e⟩ valid).mono
  · exact fun _ h left => released ⟨left.2.valid, left.2.records, left.2.asked⟩
  · exact fun _ h left => released ⟨left.2.valid, left.2.records, left.2.asked⟩

end TriggerFlow.Run
