import TriggerFlow.Proofs.Instant.Printed
import TriggerFlow.Record.Leaf

/-!
# Members that read back

A record is read member by member. What a member reads as depends on the datum under its name alone, so a record is read
back as soon as each of its members is.
-/

namespace TriggerFlow

namespace Reading

variable {α β : Type}

theorem map_of_value (f : α → β) {reading : Reading α} {a : α} (reads : reading = .value a) :
    f <$> reading = .value (f a) := by
  rw [reads]
  rfl

theorem seq_of_value {f : Reading (α → β)} {reading : Reading α} {g : α → β} {a : α} (made : f = .value g)
    (reads : reading = .value a) : f <*> reading = .value (g a) := by
  rw [made, reads]
  rfl

theorem under_of_value (step : String) {reading : Reading α} {a : α} (reads : reading = .value a) :
    reading.under step = .value a := by
  rw [reads]
  rfl

end Reading

namespace Record

variable {α : Type} {m : Members} {key : String} {datum : Json} {a : α} {read : Json → Reading α}

theorem text_text (s : String) : text (.text s) = .value s := rfl

theorem truth_bool (b : Bool) : truth (.bool b) = .value b := rfl

theorem integer_int (n : Int) : integer (.int n) = .value n := rfl

theorem number_float (x : Binary64) : number (.float x) = .value x := rfl

theorem members_object (m : Members) : members (.object m) = .value m := rfl

theorem instant_text {t : Instant} (shown : t.Shown) : instant (.text t.recordText) = .value t.recorded := by
  simp only [instant, shown.read?_recordText]

/-- A point in time that has been read is one that records have. -/
theorem written_of_instant {datum : Json} {t : Instant} (read : instant datum = .value t) : t.Written := by
  unfold instant at read
  dsimp only at read
  split at read
  · cases read
    rename_i found
    split at found
    · exact Instant.written_of_read? found
    · exact Instant.written_of_ofInt? found
    · exact Instant.written_of_ofFloat? found
    · cases found
  · cases read

theorem required_of_get? (found : m.get? key = some datum) (reads : read datum = .value a) :
    required m key read = .value a := by
  rw [required, found]
  exact Reading.under_of_value key reads

theorem optional_of_get? (fallback : α) (found : m.get? key = some datum) (reads : read datum = .value a) :
    optional m key fallback read = .value a := by
  rw [optional, found]
  exact Reading.under_of_value key reads

/-- A member that has been read has a datum which reads as it, or is left out. -/
theorem get?_of_optional {fallback : α} (reads : optional m key fallback read = .value a) :
    (∃ datum, m.get? key = some datum ∧ read datum = .value a) ∨ m.get? key = none ∧ a = fallback := by
  unfold optional at reads
  split at reads
  · exact .inl ⟨_, ‹_›, Reading.under_eq_value reads⟩
  · cases reads
    exact .inr ⟨‹_›, rfl⟩

theorem choice_name {complaint : Complaint} {named : String → Option α} {name : String} (is : named name = some a) :
    choice complaint named (.text name) = .value a := by
  simp only [choice, is]

theorem nullable_of_ne_null (some : datum ≠ .null) (reads : read datum = .value a) :
    nullable read datum = .value (Option.some a) := by
  unfold nullable
  split
  · exact absurd rfl some
  · exact Reading.map_of_value _ reads

/-- A nullable datum that has been read is null or reads as what is there. -/
theorem reads_of_nullable {found : Option α} (reads : nullable read datum = .value found) :
    ∀ a ∈ found, read datum = .value a := by
  unfold nullable at reads
  split at reads
  · cases reads
    simp
  · obtain ⟨a, value, rfl⟩ := Reading.map_eq_value reads
    rintro _ ⟨⟩
    exact value

/-- A text that may be absent reads back. -/
theorem nullable_ofText? (s : Option String) : nullable text (.ofText? s) = .value s := by
  cases s <;> rfl

theorem itemsFrom_map {β : Type} {write : β → Json} {kept : β → α} (l : List β) (place : Nat)
    (each : ∀ b ∈ l, read (write b) = .value (kept b)) : itemsFrom read place (l.map write) = .value (l.map kept) := by
  induction l generalizing place with
  | nil => rfl
  | cons b rest ih =>
    rw [List.map_cons, itemsFrom, each b List.mem_cons_self, ih _ fun b mem => each b (List.mem_cons_of_mem _ mem)]
    rfl

/-- A list reads back if each of its items does. -/
theorem items_map {β : Type} {write : β → Json} {kept : β → α} {l : List β}
    (each : ∀ b ∈ l, read (write b) = .value (kept b)) : items read (.list (l.map write)) = .value (l.map kept) :=
  itemsFrom_map l 0 each

theorem reads_of_itemsFrom {place : Nat} {data : List Json} {found : List α}
    (reads : itemsFrom read place data = .value found) : ∀ a ∈ found, ∃ datum ∈ data, read datum = .value a := by
  induction data generalizing place found with
  | nil =>
    cases reads
    simp
  | cons datum rest ih =>
    obtain ⟨_, others, first, left, rfl⟩ := Reading.seq_eq_value reads
    obtain ⟨a, here, rfl⟩ := Reading.map_eq_value first
    intro b mem
    rcases List.mem_cons.mp mem with rfl | mem
    · exact ⟨datum, List.mem_cons_self, Reading.under_eq_value here⟩
    · obtain ⟨datum, within, value⟩ := ih left b mem
      exact ⟨datum, List.mem_cons_of_mem _ within, value⟩

/-- Whatever reads as an item of a list has been read from an item of the data. -/
theorem reads_of_items {found : List α} (reads : items read datum = .value found) :
    ∀ a ∈ found, ∃ datum, read datum = .value a := by
  unfold items at reads
  split at reads
  · exact fun a mem => (reads_of_itemsFrom reads a mem).imp fun _ => And.right
  · cases reads

end Record

end TriggerFlow
