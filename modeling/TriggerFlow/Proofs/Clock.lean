import TriggerFlow.Proofs.Untouched

/-!
# Clocks that tell their offset

A clock tells the time with its offset or without. No operation on the store turns the one kind into the other, be the
records in memory or in files: the clock only moves on. So a world with a clock that tells its offset keeps one, and the
promises of a ledger can be restricted to such worlds.
-/

namespace TriggerFlow

namespace Store

/-- The clock tells the time with its offset. -/
def Aware (s : Store) : Prop := s.now.isAware = true

theorem aware_free : FreeOfExecutions Aware :=
  ⟨fun aware _ => aware, fun _ aware _ => aware, fun _ aware _ _ => aware, fun _ aware _ => aware⟩

end Store

namespace Run

variable {σ : Type} {s : Surroundings σ}

/-- The promises of a ledger, restricted to where a property holds that the surroundings preserve. -/
def Ledger.within (k : Ledger s) {P : σ → Prop} (preserve : s.Preserve P) : Ledger s where
  valid w := k.valid w ∧ P w
  record := k.record
  sent := k.sent
  drift := k.drift
  drift_refl := k.drift_refl
  drift_trans := k.drift_trans
  id_of_record valid := k.id_of_record valid.1
  load valid id := ((k.load valid.1 id).and ((preserve.load id).ensures valid.2)).mono
    (fun _ _ ⟨⟨found, same⟩, held⟩ => ⟨found, ⟨same.valid, held⟩, same.record, same.sent, same.drift⟩)
    fun _ _ none => none.1
  save valid e := ((k.save valid.1 e).and ((preserve.save e).ensures valid.2)).mono
    (fun _ _ ⟨becomes, held⟩ => ⟨⟨becomes.valid, held⟩, becomes.record, becomes.sent, becomes.drift⟩)
    fun _ _ none => none.1
  append valid id entry := ((k.append valid.1 id entry).and ((preserve.append id entry).ensures valid.2)).mono
    (fun _ _ ⟨⟨e, stored, becomes⟩, held⟩ =>
      ⟨e, stored, ⟨becomes.valid, held⟩, becomes.record, becomes.sent, becomes.drift⟩)
    fun _ _ ⟨⟨failure, lost, same⟩, held⟩ =>
      ⟨failure, lost, ⟨same.valid, held⟩, same.record, same.sent, same.drift⟩
  waiting valid := ((k.waiting valid.1).and (preserve.waiting.ensures valid.2)).mono
    (fun _ _ ⟨⟨same, found⟩, held⟩ => ⟨⟨⟨same.valid, held⟩, same.record, same.sent, same.drift⟩, found⟩)
    fun _ _ ⟨same, held⟩ => ⟨⟨same.valid, held⟩, same.record, same.sent, same.drift⟩
  respond valid sending :=
    have ⟨valid', rest⟩ := k.respond valid.1 sending
    ⟨⟨valid', preserve.respond sending _ valid.2⟩, rest⟩
  suffer valid effect := ((k.suffer valid.1 effect).and ((preserve.suffer effect).ensures valid.2)).mono
    (fun _ _ ⟨becomes, held⟩ => ⟨⟨becomes.valid, held⟩, becomes.record, becomes.sent, becomes.drift⟩)
    fun _ _ ⟨same, held⟩ => ⟨⟨same.valid, held⟩, same.record, same.sent, same.drift⟩

end Run

namespace World

variable {δ : Type}

theorem pass_aware (micros : Int) : (pass micros).Preserves Store.Aware := by
  intro s aware
  unfold pass
  split
  · exact (Instant.isAware_of_later? ‹_›).trans aware
  · exact aware

/-- The clock of a world goes on telling its offset. -/
theorem preserve_aware (d : Action.Dispatcher δ) (cancelAt : Option String) :
    (surroundings d cancelAt).Preserve fun w => w.store.Aware := preserve d cancelAt Store.aware_free pass_aware

/-- The ledger of a world whose clock tells its offset. -/
def timedLedger (d : Action.Dispatcher δ) (cancelAt : Option String) : Run.Ledger (surroundings d cancelAt) :=
  (ledger d cancelAt).within (preserve_aware d cancelAt)

end World

end TriggerFlow
