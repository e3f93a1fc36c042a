import TriggerFlow.Proofs.Json.Printed
import TriggerFlow.Proofs.Store
import TriggerFlow.Proofs.Workflow.Plain

/-!
# The file of workflows

A file of workflows is a list of items, and some of them may not be readable. Loading tells them apart, and storing
writes what could not be read behind the workflows, where it is found again with what the workflows are kept as.
-/

namespace TriggerFlow

open Record

namespace Workflow

/-- What the models accept and the text of a file can tell. -/
structure Storable (w : Workflow) : Prop where
  accepted : w.graph.Accepted
  shown : w.Times Instant.Shown
  plain : w.toRecord.isPlain = true

/-- What a workflow is called is a text like others. -/
theorem Storable.called {w : Workflow} (storable : w.Storable) (id name : String) : Storable { w with id, name } where
  accepted := storable.accepted
  shown := ⟨storable.shown.lastExecuted, storable.shown.created, storable.shown.updated⟩
  plain := by
    obtain ⟨version, nodes, vars, executions, errors⟩ := isPlain_toRecord_iff.mp storable.plain
    exact isPlain_toRecord_iff.mpr ⟨version, nodes, vars, executions, errors⟩

/-- The workflow that an item of a file is read as. -/
def ofItem? (item : Json) : Option Workflow := (ofRecord default item).value?

/-- An item that brings its own identifier and its own time stamps. -/
def isSelfContained : Json → Bool
  | .object m => Ordered.has m "id" && Ordered.has m "created_at" && Ordered.has m "updated_at"
  | _ => false

/-- The items that can be read, as workflows in order. -/
def readable (items : List Json) : List Workflow := items.filterMap ofItem?

/-- The items that cannot be read, in order. -/
def unreadable (items : List Json) : List Json := items.filter fun item => (ofItem? item).isNone

section Item

variable {α : Type} {m : Members} {key : String} {a b : α} {read : Json → Reading α}

/-- A default decides what an absent member is, but not whether the member can be read. -/
theorem exists_optional {fallback : α} (reads : optional m key fallback read = .value a) (other : α) :
    ∃ b, optional m key other read = .value b ∧ (m.has key = true → b = a) := by
  rcases get?_of_optional reads with ⟨datum, found, value⟩ | ⟨absent, -⟩
  · exact ⟨a, optional_of_get? other found value, fun _ => rfl⟩
  · refine ⟨other, by rw [Record.optional, absent], fun present => ?_⟩
    rw [Ordered.has, absent] at present
    cases present

variable {fresh : Fresh} {item : Json} {w : Workflow}

/-- What a new record would take decides only what an item leaves out. -/
theorem exists_ofRecord (reads : ofRecord fresh item = .value w) (other : Fresh) :
    ∃ w', ofRecord other item = .value w' ∧ (isSelfContained item = true → w' = w) := by
  cases item with
  | object m =>
    obtain ⟨h1, h2, h3, h4, h5, h6, h7, h8, h9, h10, h11, h12, h13, h14, h15⟩ := ofRecord_eq_value_iff.mp reads
    obtain ⟨id, reads1, same1⟩ := exists_optional h1 other.id
    obtain ⟨created, reads14, same14⟩ := exists_optional h14 other.now
    obtain ⟨updated, reads15, same15⟩ := exists_optional h15 other.now
    refine ⟨{ w with id := id, createdAt := created, updatedAt := updated }, ofRecord_eq_value_iff.mpr
      ⟨reads1, h2, h3, h4, h5, h6, h7, h8, h9, h10, h11, h12, h13, reads14, reads15⟩, fun own => ?_⟩
    simp only [isSelfContained, Bool.and_eq_true] at own
    rw [same1 own.1.1, same14 own.1.2, same15 own.2]
  | _ => cases reads

theorem ofItem?_eq_some (own : isSelfContained item = true) (reads : ofRecord fresh item = .value w) :
    ofItem? item = some w := by
  obtain ⟨w', value, same⟩ := exists_ofRecord reads default
  rw [ofItem?, value, same own]
  rfl

theorem isSome_ofItem? (reads : ofRecord fresh item = .value w) : (ofItem? item).isSome = true := by
  obtain ⟨w', value, -⟩ := exists_ofRecord reads default
  rw [ofItem?, value]
  rfl

theorem ofItem?_eq_none {found : List Issue} (reads : ofRecord fresh item = .issues found) : ofItem? item = none := by
  rw [ofItem?]
  cases value : ofRecord default item with
  | issues => rfl
  | value w =>
    obtain ⟨w', again, -⟩ := exists_ofRecord value fresh
    rw [reads] at again
    cases again

theorem ofRecord_of_ofItem? (reads : ofItem? item = some w) : ofRecord default item = .value w := by
  unfold ofItem? at reads
  cases value : ofRecord default item with
  | issues => rw [value] at reads; cases reads
  | value w' =>
    rw [value] at reads
    cases reads
    rfl

/-- A workflow that has been read has its points in time from records. -/
theorem written_of_ofItem? (own : isSelfContained item = true) (reads : ofItem? item = some w) :
    w.Times Instant.Written := by
  have value := ofRecord_of_ofItem? reads
  cases item with
  | object m =>
    simp only [isSelfContained, Bool.and_eq_true] at own
    obtain ⟨-, -, -, -, -, -, -, -, -, -, -, -, last, created, updated⟩ := ofRecord_eq_value_iff.mp value
    have stamp {key : String} {t fallback : Instant} (present : Ordered.has m key = true)
        (read : optional m key fallback instant = .value t) : t.Written := by
      rcases get?_of_optional read with ⟨datum, -, found⟩ | ⟨absent, -⟩
      · exact written_of_instant found
      · rw [Ordered.has, absent] at present
        cases present
    refine ⟨fun t mem => ?_, stamp own.1.2 created, stamp own.2 updated⟩
    rcases get?_of_optional last with ⟨datum, -, found⟩ | ⟨-, absent⟩
    · exact written_of_instant (reads_of_nullable found t mem)
    · rw [absent] at mem
      cases mem
  | _ => cases value

theorem storable_of_ofItem? (plain : item.isPlain = true) (own : isSelfContained item = true)
    (reads : ofItem? item = some w) : w.Storable where
  accepted := accepted_of_ofRecord (ofRecord_of_ofItem? reads)
  shown := (written_of_ofItem? own reads).mono fun _ written => written.toShown
  plain := isPlain_of_ofRecord plain (ofRecord_of_ofItem? reads)

/-- A workflow that has been read is kept as it is. -/
theorem recorded_of_ofItem? (own : isSelfContained item = true) (reads : ofItem? item = some w) : w.recorded = w :=
  ((written_of_ofItem? own reads).mono fun _ written => written.minutes).recorded_eq

end Item

theorem isSelfContained_toRecord (w : Workflow) : isSelfContained w.toRecord = true := rfl

theorem ofItem?_toRecord {w : Workflow} (storable : w.Storable) : ofItem? w.toRecord = some w.recorded := by
  rw [ofItem?, ofRecord_toRecord default storable.accepted storable.shown]
  rfl

end Workflow

namespace Store

open Workflow (ofItem? isSelfContained readable unreadable)

/-- The items of the file of workflows, of which the readable ones bring their own identifiers and stamps. A file that
is missing has none. -/
structure Holds (s : Store) (shelf : Shelf) (items : List Json) : Prop where
  kind : s.keeping = .files shelf
  file : workflowItems (s.folder.get? shelf.workflows) = .ok items
  own : ∀ item ∈ items, (ofItem? item).isSome = true → isSelfContained item = true

/-- The file of workflows is there, and is a list of these items. -/
def Lists (s : Store) (shelf : Shelf) (items : List Json) : Prop :=
  ∃ text, s.folder.get? shelf.workflows = some text ∧ Json.read text = .ok (.list items)

variable {s s' : Store} {shelf : Shelf} {items : List Json}

theorem Lists.workflowItems (lists : s.Lists shelf items) :
    workflowItems (s.folder.get? shelf.workflows) = .ok items := by
  obtain ⟨text, found, is⟩ := lists
  rw [found, TriggerFlow.workflowItems, is]

theorem Holds.isPlain (holds : s.Holds shelf items) : ∀ item ∈ items, item.isPlain = true := by
  have file := holds.file
  unfold workflowItems at file
  split at file
  · cases file
    simp
  · split at file
    · rename_i is
      cases file
      exact Json.isPlain_list.mp (Json.isPlain_of_read is)
    · cases file
      simp
    · cases file
      simp
    · cases file

theorem Holds.storable (holds : s.Holds shelf items) : ∀ w ∈ readable items, w.Storable ∧ w.recorded = w := by
  intro w mem
  obtain ⟨item, within, reads⟩ := List.mem_filterMap.mp mem
  have own := holds.own item within (by rw [reads]; rfl)
  exact ⟨Workflow.storable_of_ofItem? (holds.isPlain item within) own reads, Workflow.recorded_of_ofItem? own reads⟩

theorem Holds.written (holds : s.Holds shelf items) : ∀ w ∈ readable items, w.Times Instant.Written := by
  intro w mem
  obtain ⟨item, within, reads⟩ := List.mem_filterMap.mp mem
  exact Workflow.written_of_ofItem? (holds.own item within (by rw [reads]; rfl)) reads

/-- The same files, whatever identifiers have been drawn. -/
theorem Holds.of_folder (holds : s.Holds shelf items) (kind : s'.keeping = s.keeping) (folder : s'.folder = s.folder) :
    s'.Holds shelf items := ⟨kind.trans holds.kind, folder ▸ holds.file, holds.own⟩

section Loading

theorem readRecord_apply {α : Type} (read : Fresh → Json → Reading α) (item : Json) (s : Store) :
    ∃ n, readRecord read item s = (.ok (read s.fresh item), { s with drawn := n }) := by
  unfold readRecord
  split
  · exact ⟨_, rfl⟩
  · exact ⟨s.drawn, rfl⟩

/-- Items are told apart by whether they can be read; reading draws identifiers and does nothing else. -/
theorem sortItems_apply (items : List Json)
    (own : ∀ item ∈ items, (ofItem? item).isSome = true → isSelfContained item = true) (s : Store) :
    ∃ n, sortItems items s = (.ok (readable items, unreadable items), { s with drawn := n }) := by
  induction items generalizing s with
  | nil => exact ⟨s.drawn, rfl⟩
  | cons item rest ih =>
    obtain ⟨n, first⟩ := readRecord_apply Workflow.ofRecord item s
    obtain ⟨m, others⟩ := ih (fun item mem => own item (List.mem_cons_of_mem _ mem)) { s with drawn := n }
    refine ⟨m, ?_⟩
    rw [sortItems, Act.bind_run_ok first, Act.bind_run_ok others]
    cases reads : Workflow.ofRecord s.fresh item with
    | value w =>
      have here := Workflow.ofItem?_eq_some (own item List.mem_cons_self (Workflow.isSome_ofItem? reads)) reads
      simp [readable, unreadable, here, Act.pure_run]
    | issues found =>
      have here := Workflow.ofItem?_eq_none reads
      simp [readable, unreadable, here, Act.pure_run]

theorem loadWorkflows_apply (holds : s.Holds shelf items) :
    ∃ n, loadWorkflows shelf s = (.ok (readable items, unreadable items), { s with drawn := n }) := by
  obtain ⟨n, sorted⟩ := sortItems_apply items holds.own s
  refine ⟨n, ?_⟩
  have file : fileText shelf.workflows s = (.ok (s.folder.get? shelf.workflows), s) := rfl
  have listed : (Act.lift .json (workflowItems (s.folder.get? shelf.workflows)) : Act Store (List Json)) s =
      (.ok items, s) := by
    rw [holds.file]
    rfl
  rw [loadWorkflows, Act.bind_run_ok file, Act.bind_run_ok listed, sorted]

end Loading

section Storing

theorem readable_written {l : List Workflow} {rest : List Json} (storable : ∀ w ∈ l, w.Storable)
    (broken : ∀ item ∈ rest, ofItem? item = none) :
    readable (l.map Workflow.toRecord ++ rest) = l.map Workflow.recorded := by
  have front : (l.map Workflow.toRecord).filterMap ofItem? = l.map Workflow.recorded := by
    rw [List.filterMap_map, ← List.filterMap_eq_map]
    exact List.filterMap_congr fun w mem => Workflow.ofItem?_toRecord (storable w mem)
  rw [readable, List.filterMap_append, front, List.filterMap_eq_nil_iff.mpr broken, List.append_nil]

theorem unreadable_written {l : List Workflow} {rest : List Json} (storable : ∀ w ∈ l, w.Storable)
    (broken : ∀ item ∈ rest, ofItem? item = none) : unreadable (l.map Workflow.toRecord ++ rest) = rest := by
  have front : (l.map Workflow.toRecord).filter (fun item => (ofItem? item).isNone) = [] := by
    refine List.filter_eq_nil_iff.mpr ?_
    rw [List.forall_mem_map]
    intro w mem
    rw [Workflow.ofItem?_toRecord (storable w mem)]
    simp
  have back : rest.filter (fun item => (ofItem? item).isNone) = rest :=
    List.filter_eq_self.mpr fun item mem => by rw [broken item mem]; rfl
  rw [unreadable, List.filter_append, front, back, List.nil_append]

/-- What has been written is there. -/
theorem lists_storeWorkflows {l : List Workflow} {rest : List Json} (storable : ∀ w ∈ l, w.Storable)
    (plain : ∀ item ∈ rest, item.isPlain = true) :
    (storeWorkflows shelf l rest s).2.Lists shelf (l.map Workflow.toRecord ++ rest) := by
  refine ⟨workflowsText l rest, Ordered.get?_set_self _ _ _, Json.read_fileText_of_isPlain ?_⟩
  refine Json.isPlain_list.mpr fun item mem => ?_
  rcases List.mem_append.mp mem with front | back
  · obtain ⟨w, within, rfl⟩ := List.mem_map.mp front
    exact (storable w within).plain
  · exact plain item back

/-- What has been written is read again. -/
theorem holds_storeWorkflows (kind : s.keeping = .files shelf) {l : List Workflow} {rest : List Json}
    (storable : ∀ w ∈ l, w.Storable) (plain : ∀ item ∈ rest, item.isPlain = true)
    (broken : ∀ item ∈ rest, ofItem? item = none) :
    (storeWorkflows shelf l rest s).2.Holds shelf (l.map Workflow.toRecord ++ rest) where
  kind := kind
  file := (lists_storeWorkflows storable plain).workflowItems
  own item mem readable := by
    rcases List.mem_append.mp mem with front | back
    · obtain ⟨w, -, rfl⟩ := List.mem_map.mp front
      exact w.isSelfContained_toRecord
    · rw [broken item back] at readable
      cases readable

end Storing

end Store

end TriggerFlow
