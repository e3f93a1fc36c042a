/-!
Mappings that remember the order in which keys first came in: lists of pairs with at most one pair per
key. A new key goes last and a known key keeps its place.
-/

namespace TriggerFlow

/-- A mapping from texts that keeps insertion order. -/
abbrev Ordered (α : Type) := List (String × α)

namespace Ordered

variable {α : Type}

/-- The keys in order. -/
def keys (m : Ordered α) : List String := m.map Prod.fst

/-- The values in order. -/
def values (m : Ordered α) : List α := m.map Prod.snd

/-- The value at a key. -/
def get? (m : Ordered α) (key : String) : Option α :=
  match m with
  | [] => none
  | (k, v) :: rest => if k = key then some v else get? rest key

/-- Whether a key is present. -/
def has (m : Ordered α) (key : String) : Bool := (m.get? key).isSome

/-- Sets the value at a key. -/
def set (m : Ordered α) (key : String) (value : α) : Ordered α :=
  match m with
  | [] => [(key, value)]
  | (k, v) :: rest => if k = key then (k, value) :: rest else (k, v) :: set rest key value

/-- Removes a key. -/
def erase (m : Ordered α) (key : String) : Ordered α := m.filter fun pair => pair.1 ≠ key

/-- Sets every pair of the second mapping in the first, in order. -/
def overlay (m later : Ordered α) : Ordered α := later.foldl (fun acc pair => acc.set pair.1 pair.2) m

/-- The mapping that a list of pairs describes when a later pair overrides an earlier one. -/
def ofPairs (pairs : List (String × α)) : Ordered α := overlay [] pairs

@[simp] theorem get?_nil (key : String) : get? ([] : Ordered α) key = none := rfl

@[simp] theorem keys_nil : keys ([] : Ordered α) = [] := rfl

@[simp] theorem keys_cons (pair : String × α) (rest : Ordered α) :
    keys (pair :: rest) = pair.1 :: keys rest := rfl

theorem get?_set_self (m : Ordered α) (key : String) (value : α) :
    (m.set key value).get? key = some value := by
  induction m with
  | nil => simp [set, get?]
  | cons pair rest ih =>
    obtain ⟨k, v⟩ := pair
    by_cases h : k = key <;> simp [set, get?, h, ih]

theorem get?_set_of_ne (m : Ordered α) {key other : String} (value : α) (h : key ≠ other) :
    (m.set key value).get? other = m.get? other := by
  induction m with
  | nil => simp [set, get?, h]
  | cons pair rest ih =>
    obtain ⟨k, v⟩ := pair
    by_cases hk : k = key
    · subst hk
      simp [set, get?, h]
    · simp [set, get?, hk, ih]

/-- A known key keeps its place and a new one goes last. -/
theorem keys_set (m : Ordered α) (key : String) (value : α) :
    (m.set key value).keys = if key ∈ m.keys then m.keys else m.keys ++ [key] := by
  induction m with
  | nil => simp [set]
  | cons pair rest ih =>
    obtain ⟨k, v⟩ := pair
    by_cases hk : k = key
    · simp [set, hk]
    · have hne : key ≠ k := fun h => hk h.symm
      by_cases hm : key ∈ keys rest <;> simp [set, hk, hne, ih, hm]

end Ordered

end TriggerFlow
