import TriggerFlow.Failure

/-!
Computations on a state that may fail. What a computation did to the state before it failed stays done,
so a failure in the middle of a run leaves a usable record behind.
-/

namespace TriggerFlow

/-- A computation on states `S` with results `α`. -/
def Act (S α : Type) := S → Except Failure α × S

namespace Act

variable {S T α β : Type}

instance : Monad (Act S) where
  pure a := fun s => (.ok a, s)
  bind x f := fun s =>
    match x s with
    | (.ok a, s) => f a s
    | (.error failure, s) => (.error failure, s)

/-- The state. -/
def get : Act S S := fun s => (.ok s, s)

/-- Changes the state. -/
def modify (f : S → S) : Act S Unit := fun s => (.ok (), f s)

/-- A property of the state. -/
def ask (f : S → α) : Act S α := fun s => (.ok (f s), s)

def fail (failure : Failure) : Act S α := fun s => (.error failure, s)

/-- A result that may be a failure, wrapped as one of this library. -/
def lift {ε : Type} (wrap : ε → Failure) : Except ε α → Act S α
  | .ok a => pure a
  | .error fault => fail (wrap fault)

/-- The result of a computation, be it a value or a failure. -/
def attempt (x : Act S α) : Act S (Except Failure α) := fun s => (.ok (x s).1, (x s).2)

/-- Goes on with a handler after a failure. -/
def recover (x : Act S α) (handler : Failure → Act S α) : Act S α := fun s =>
  match x s with
  | (.ok a, s) => (.ok a, s)
  | (.error failure, s) => handler failure s

/-- A computation on a part of the state. -/
def onPart (part : S → T) (replace : T → S → S) (x : Act T α) : Act S α := fun s =>
  ((x (part s)).1, replace (x (part s)).2 s)

/-- Whatever the result, changes the state at the end. -/
def andThen (x : Act S α) (f : S → S) : Act S α := fun s => ((x s).1, f (x s).2)

theorem pure_run (a : α) (s : S) : (pure a : Act S α) s = (.ok a, s) := rfl

theorem bind_run_ok {x : Act S α} {s t : S} {a : α} (h : x s = (.ok a, t)) (f : α → Act S β) :
    (x >>= f) s = f a t := by
  show (match x s with
    | (.ok a, s) => f a s
    | (.error failure, s) => (.error failure, s)) = f a t
  rw [h]

theorem bind_run_error {x : Act S α} {s t : S} {failure : Failure} (h : x s = (.error failure, t))
    (f : α → Act S β) : (x >>= f) s = (.error failure, t) := by
  show (match x s with
    | (.ok a, s) => f a s
    | (.error failure, s) => (.error failure, s)) = (.error failure, t)
  rw [h]

end Act

end TriggerFlow
