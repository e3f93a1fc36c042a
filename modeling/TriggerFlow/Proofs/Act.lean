import TriggerFlow.Act

/-!
# What a computation ensures

A computation ends in a value or in a failure, and leaves a state behind in either case. Statements about
it name what holds of both endings. A second kind of statement needs no endings: a property of the state that a
computation preserves, whatever it ends in.
-/

namespace TriggerFlow.Act

variable {S T α β : Type}

/-- From a state, the computation ends in a value with one property or in a failure with another. -/
def Ensures (x : Act S α) (s : S) (good : α → S → Prop) (bad : Failure → S → Prop) : Prop :=
  match x s with
  | (.ok a, t) => good a t
  | (.error failure, t) => bad failure t

theorem bind_apply (x : Act S α) (f : α → Act S β) (s : S) : (x >>= f) s =
    match x s with
    | (.ok a, t) => f a t
    | (.error failure, t) => (.error failure, t) := rfl

/-- A value made of the last one leaves the state alone. -/
theorem bind_pure_state (x : Act S α) (f : α → β) (s : S) : ((x >>= fun a => pure (f a)) s).2 = (x s).2 := by
  rw [bind_apply]
  rcases x s with ⟨_ | _, t⟩ <;> rfl

/-- Two computations that come to the same go on alike. -/
theorem bind_congr_run {x y : Act S α} {s : S} (same : x s = y s) (f : α → Act S β) : (x >>= f) s = (y >>= f) s := by
  rw [bind_apply, bind_apply, same]

theorem id_map_apply (x : Act S α) : id <$> x = x := by
  funext s
  show (match x s with
    | (.ok a, t) => (.ok a, t)
    | (.error failure, t) => (.error failure, t)) = x s
  rcases x s with ⟨_ | _, t⟩ <;> rfl

theorem bind_assoc_apply {γ : Type} (x : Act S α) (f : α → Act S β) (g : β → Act S γ) :
    x >>= f >>= g = x >>= fun a => f a >>= g := by
  funext s
  simp only [bind_apply]
  rcases x s with ⟨_ | _, t⟩ <;> rfl

instance : LawfulMonad (Act S) :=
  LawfulMonad.mk' (Act S) id_map_apply (fun _ _ => rfl) bind_assoc_apply

namespace Ensures

variable {x : Act S α} {s : S} {good good' : α → S → Prop} {bad bad' : Failure → S → Prop}

theorem mono (h : Ensures x s good bad) (value : ∀ a t, good a t → good' a t)
    (failure : ∀ f t, bad f t → bad' f t) : Ensures x s good' bad' := by
  unfold Ensures at h ⊢
  rcases run : x s with ⟨_ | _, t⟩ <;> rw [run] at h
  · exact failure _ _ h
  · exact value _ _ h

theorem and (h : Ensures x s good bad) (h' : Ensures x s good' bad') :
    Ensures x s (fun a t => good a t ∧ good' a t) (fun f t => bad f t ∧ bad' f t) := by
  unfold Ensures at h h' ⊢
  rcases run : x s with ⟨_ | _, t⟩ <;> rw [run] at h h' <;> exact ⟨h, h'⟩

/-- What a computation comes to is what it comes to. -/
theorem run (x : Act S α) (s : S) :
    Ensures x s (fun a t => x s = (.ok a, t)) fun f t => x s = (.error f, t) := by
  unfold Ensures
  split <;> assumption

theorem of_ok {a : α} {t : S} (h : Ensures x s good bad) (run : x s = (.ok a, t)) : good a t := by
  rwa [Ensures, run] at h

theorem of_error {f : Failure} {t : S} (h : Ensures x s good bad) (run : x s = (.error f, t)) :
    bad f t := by
  rwa [Ensures, run] at h

/-- One answer, be it a value or a failure, and a property of the state. -/
theorem answer {r : Except Failure α} {P : S → Prop}
    (h : Ensures x s (fun a t => .ok a = r ∧ P t) fun f t => .error f = r ∧ P t) : (x s).1 = r ∧ P (x s).2 := by
  unfold Ensures at h
  rcases run : x s with ⟨_ | _, t⟩ <;> rw [run] at h <;> exact h

/-- A property of the state that both endings have. -/
theorem state {P : S → Prop} (h : Ensures x s (fun _ => P) (fun _ => P)) : P (x s).2 := by
  unfold Ensures at h
  rcases run : x s with ⟨_ | _, t⟩ <;> rw [run] at h <;> exact h

theorem of_state {P : S → Prop} (held : P (x s).2) : Ensures x s (fun _ => P) fun _ => P := by
  unfold Ensures
  rcases run : x s with ⟨_ | _, t⟩ <;> rw [run] at held <;> exact held

end Ensures

variable {s : S} {good : β → S → Prop} {bad : Failure → S → Prop}

@[simp] theorem ensures_pure {b : β} : Ensures (pure b : Act S β) s good bad ↔ good b s := Iff.rfl

@[simp] theorem ensures_bind {x : Act S α} {f : α → Act S β} : Ensures (x >>= f) s good bad ↔
    Ensures x s (fun a t => Ensures (f a) t good bad) bad := by
  simp only [Ensures, bind_apply]
  rcases x s with ⟨_ | _, t⟩ <;> rfl

/-- What a computation ensures depends on nothing but what it comes to. -/
theorem ensures_of_eq {x y : Act S β} {t : S} (same : x s = y t) : Ensures x s good bad ↔ Ensures y t good bad := by
  rw [Ensures, same, Ensures]

theorem ensures_bind_of_ok {x : Act S α} {f : α → Act S β} {a : α} {t : S} (run : x s = (.ok a, t)) :
    Ensures (x >>= f) s good bad ↔ Ensures (f a) t good bad := by
  rw [Ensures, bind_run_ok run, Ensures]

theorem ensures_bind_of_error {x : Act S α} {f : α → Act S β} {failure : Failure} {t : S}
    (run : x s = (.error failure, t)) : Ensures (x >>= f) s good bad ↔ bad failure t := by
  rw [Ensures, bind_run_error run]

@[simp] theorem ensures_map {x : Act S α} {f : α → β} : Ensures (f <$> x) s good bad ↔
    Ensures x s (fun a t => good (f a) t) bad := by
  rw [map_eq_pure_bind, ensures_bind]
  rfl

@[simp] theorem ensures_fail {failure : Failure} :
    Ensures (fail failure : Act S β) s good bad ↔ bad failure s := Iff.rfl

@[simp] theorem ensures_ask {f : S → β} : Ensures (ask f) s good bad ↔ good (f s) s := Iff.rfl

@[simp] theorem ensures_modify {f : S → S} {done : Unit → S → Prop} :
    Ensures (modify f) s done bad ↔ done () (f s) := Iff.rfl

@[simp] theorem ensures_lift {ε : Type} {wrap : ε → Failure} {r : Except ε β} :
    Ensures (lift wrap r : Act S β) s good bad ↔
      (∀ b, r = .ok b → good b s) ∧ ∀ fault, r = .error fault → bad (wrap fault) s := by
  cases r <;> simp [lift, Ensures, fail, pure_run]

@[simp] theorem ensures_attempt {x : Act S α} {tried : Except Failure α → S → Prop} :
    Ensures (attempt x) s tried bad ↔
      Ensures x s (fun a t => tried (.ok a) t) (fun f t => tried (.error f) t) := by
  simp only [Ensures, attempt]
  rcases x s with ⟨_ | _, t⟩ <;> rfl

@[simp] theorem ensures_recover {x : Act S β} {handler : Failure → Act S β} :
    Ensures (recover x handler) s good bad ↔
      Ensures x s good (fun f t => Ensures (handler f) t good bad) := by
  simp only [Ensures, recover]
  rcases x s with ⟨_ | _, t⟩ <;> rfl

@[simp] theorem ensures_onPart {part : S → T} {replace : T → S → S} {x : Act T β} :
    Ensures (onPart part replace x) s good bad ↔
      Ensures x (part s) (fun b t => good b (replace t s)) (fun f t => bad f (replace t s)) := by
  simp only [Ensures, onPart]
  rcases x (part s) with ⟨_ | _, t⟩ <;> rfl

@[simp] theorem ensures_andThen {x : Act S β} {f : S → S} : Ensures (andThen x f) s good bad ↔
    Ensures x s (fun b t => good b (f t)) (fun failure t => bad failure (f t)) := by
  simp only [Ensures, andThen]
  rcases x s with ⟨_ | _, t⟩ <;> rfl

/-- Whatever the computation ends in, a property of the state still holds if it did before. -/
def Preserves (P : S → Prop) (x : Act S α) : Prop := ∀ s, P s → P (x s).2

namespace Preserves

variable {P : S → Prop} {x : Act S α}

theorem pure (a : α) : Preserves P (Pure.pure a : Act S α) := fun _ held => held

theorem ask (f : S → α) : Preserves P (Act.ask f) := fun _ held => held

theorem fail (failure : Failure) : Preserves P (Act.fail failure : Act S α) := fun _ held => held

theorem modify {f : S → S} (step : ∀ s, P s → P (f s)) : Preserves P (Act.modify f) := step

theorem lift {ε : Type} (wrap : ε → Failure) (r : Except ε α) : Preserves P (Act.lift wrap r : Act S α) := by
  cases r
  · exact fail _
  · exact pure _

theorem bind {f : α → Act S β} (hx : Preserves P x) (hf : ∀ a, Preserves P (f a)) : Preserves P (x >>= f) := by
  intro s held
  have before := hx s held
  rw [bind_apply]
  rcases run : x s with ⟨_ | a, t⟩ <;> rw [run] at before
  · exact before
  · exact hf a t before

theorem map {f : α → β} (hx : Preserves P x) : Preserves P (f <$> x) := by
  rw [map_eq_pure_bind]
  exact hx.bind fun _ => pure _

theorem recover {handler : Failure → Act S α} (hx : Preserves P x) (handled : ∀ f, Preserves P (handler f)) :
    Preserves P (Act.recover x handler) := by
  intro s held
  have before := hx s held
  unfold Act.recover
  rcases run : x s with ⟨f | _, t⟩ <;> rw [run] at before
  · exact handled f t before
  · exact before

/-- What a computation preserves it ensures. -/
theorem ensures (hx : Preserves P x) {s : S} (held : P s) : Ensures x s (fun _ => P) fun _ => P := .of_state (hx s held)

end Preserves

/-- From related states, a computation comes to one answer and to related states. -/
def Respects (R : S → S → Prop) (x : Act S α) : Prop := ∀ s t, R s t → (x s).1 = (x t).1 ∧ R (x s).2 (x t).2

namespace Respects

variable {R : S → S → Prop} {x : Act S α}

theorem pure (a : α) : Respects R (Pure.pure a : Act S α) := fun _ _ related => ⟨rfl, related⟩

theorem fail (failure : Failure) : Respects R (Act.fail failure : Act S α) := fun _ _ related => ⟨rfl, related⟩

theorem ask {f : S → α} (same : ∀ s t, R s t → f s = f t) : Respects R (Act.ask f) := fun s t related =>
  ⟨congrArg Except.ok (same s t related), related⟩

theorem modify {f : S → S} (step : ∀ s t, R s t → R (f s) (f t)) : Respects R (Act.modify f) := fun s t related =>
  ⟨rfl, step s t related⟩

theorem lift {ε : Type} (wrap : ε → Failure) (r : Except ε α) : Respects R (Act.lift wrap r : Act S α) := by
  cases r
  · exact fail _
  · exact pure _

theorem bind {f : α → Act S β} (hx : Respects R x) (hf : ∀ a, Respects R (f a)) : Respects R (x >>= f) := by
  intro s t related
  obtain ⟨same, after⟩ := hx s t related
  rw [bind_apply, bind_apply]
  rcases first : x s with ⟨_ | a, s'⟩ <;> rcases second : x t with ⟨_ | b, t'⟩ <;>
    rw [first, second] at same after <;> cases same
  · exact ⟨rfl, after⟩
  · exact hf a s' t' after

theorem map {f : α → β} (hx : Respects R x) : Respects R (f <$> x) := by
  rw [map_eq_pure_bind]
  exact hx.bind fun a => pure (f a)

theorem attempt (hx : Respects R x) : Respects R x.attempt := fun s t related =>
  ⟨congrArg Except.ok (hx s t related).1, (hx s t related).2⟩

theorem recover {handler : Failure → Act S α} (hx : Respects R x) (handled : ∀ f, Respects R (handler f)) :
    Respects R (x.recover handler) := by
  intro s t related
  obtain ⟨same, after⟩ := hx s t related
  unfold Act.recover
  rcases first : x s with ⟨f | _, s'⟩ <;> rcases second : x t with ⟨_ | _, t'⟩ <;>
    rw [first, second] at same after <;> cases same
  · exact handled f s' t' after
  · exact ⟨rfl, after⟩

/-- A computation on a part respects what it respects there. -/
theorem onPart {Q : T → T → Prop} {part : S → T} {replace : T → S → S} {x : Act T α} (hx : Respects Q x)
    (look : ∀ s t, R s t → Q (part s) (part t))
    (put : ∀ s t, R s t → ∀ a b, Q a b → R (replace a s) (replace b t)) : Respects R (x.onPart part replace) :=
  fun s t related => ⟨(hx _ _ (look s t related)).1, put s t related _ _ (hx _ _ (look s t related)).2⟩

end Respects

end TriggerFlow.Act
