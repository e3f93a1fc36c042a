import TriggerFlow.Proofs.Store.Shelved

/-!
# Calls on a file of workflows

What can be read in a file of workflows is an ordered list on which every call of the store works as on a list. What
cannot be read stays as it is, whatever the store is asked to do.
-/

namespace TriggerFlow

namespace Store

open Workflow (ofItem? isSelfContained readable unreadable)

/-- What a store is asked to do with its workflows. -/
inductive WorkflowCall where
  | save (w : Workflow)
  | update (id : String) (change : Workflow → Workflow)
  | delete (id : String)
  | get (id : String)
  | list

/-- What a store answers about its workflows. -/
inductive WorkflowReply where
  | done
  | updated (w : Workflow)
  | deleted (found : Bool)
  | found (w : Option Workflow)
  | listed (l : List Workflow)
  deriving DecidableEq, Repr

namespace WorkflowCall

/-- Does what is asked. -/
def run : WorkflowCall → Act Store WorkflowReply
  | .save w => do
    saveWorkflow w
    pure .done
  | .update id change => .updated <$> updateWorkflow id change
  | .delete id => .deleted <$> deleteWorkflow id
  | .get id => .found <$> workflow? id
  | .list => .listed <$> workflows

/-- The calls that hand over what the models accept and a file can tell. -/
def Typed : WorkflowCall → Prop
  | .save w => w.Storable
  | .update _ change => ∀ w, w.Storable → (change w).Storable
  | _ => True

/-- Puts a workflow in the place of the first one with an identifier, or at the end. -/
def place (id : String) (w : Workflow) (l : List Workflow) : List Workflow :=
  match l.findIdx? fun other => other.id = id with
  | some i => l.set i w
  | none => l ++ [w]

/-- The answer to a call on an ordered list of workflows, and the list after it. A file keeps offsets in whole
minutes. -/
def on (l : List Workflow) : WorkflowCall → Except Failure WorkflowReply × List Workflow
  | .save w => (.ok .done, place w.id w.recorded l)
  | .update id change =>
    match l.find? fun w => w.id = id with
    | some w => (.ok (.updated (change w)), place id (change w).recorded l)
    | none => (.error (.workflowMissing id), l)
  | .delete id => (.ok (.deleted (l.any fun w => w.id = id)), l.filter fun w => w.id ≠ id)
  | .get id => (.ok (.found (l.find? fun w => w.id = id)), l)
  | .list => (.ok (.listed l), l)

/-- Whether a call writes the file: it saves, or changes or deletes what is there. -/
def writes (l : List Workflow) : WorkflowCall → Bool
  | .save _ => true
  | .update id _ | .delete id => l.any fun w => w.id = id
  | .get _ | .list => false

/-- The calls one after the other, whatever they answer. -/
def runAll (calls : List WorkflowCall) (s : Store) : Store := calls.foldl (fun s call => (call.run s).2) s

end WorkflowCall

variable {s s' : Store} {shelf : Shelf} {items : List Json}

namespace WorkflowCall

theorem placeWorkflow_eq (id : String) (w : Workflow) (l : List Workflow) : placeWorkflow id w l = place id w l := by
  induction l with
  | nil => rfl
  | cons first rest ih =>
    unfold placeWorkflow
    split
    · rename_i own
      simp [place, List.findIdx?_cons, own]
    · rename_i other
      rw [ih]
      simp only [place, List.findIdx?_cons, other, decide_false, Bool.false_eq_true, if_false]
      cases rest.findIdx? fun other => other.id = id <;> rfl

theorem mem_place {id : String} {w other : Workflow} {l : List Workflow} (mem : other ∈ place id w l) :
    other = w ∨ other ∈ l := by
  unfold place at mem
  split at mem
  · exact (List.mem_or_eq_of_mem_set mem).symm
  · exact (List.mem_append.mp mem).symm.imp_left List.mem_singleton.mp

theorem map_recorded {l : List Workflow} (same : ∀ w ∈ l, w.recorded = w) : l.map Workflow.recorded = l := by
  conv_rhs => rw [← List.map_id l]
  exact List.map_congr_left same

/-- A list that is kept as it is stays so with what is put into it. -/
theorem map_place {l : List Workflow} (same : ∀ w ∈ l, w.recorded = w) (id : String) (w : Workflow) :
    (place id w l).map Workflow.recorded = place id w.recorded l := by
  have kept := map_recorded same
  unfold place
  split
  · rw [List.map_set, kept]
  · rw [List.map_append, kept]
    rfl

/-- One call on a file: the answer, the items after it, and what leaves the file alone. -/
structure Step (s : Store) (shelf : Shelf) (items : List Json) (call : WorkflowCall)
    (outcome : Except Failure WorkflowReply) (s' : Store) : Prop where
  answer : outcome = (call.on (readable items)).1
  after : ∃ items', s'.Holds shelf items' ∧ (s.Lists shelf items → s'.Lists shelf items') ∧
    readable items' = (call.on (readable items)).2 ∧ unreadable items' = unreadable items
  untouched : call.writes (readable items) = false → s'.folder = s.folder
  /-- No other file is written. -/
  folder : s'.folder = s.folder ∨ ∃ text, s'.folder = s.folder.set shelf.workflows text

variable {call : WorkflowCall}

/-- A call that only looks. -/
theorem Step.of_look (holds : s.Holds shelf items) {reply : Except Failure WorkflowReply}
    (answer : (call.on (readable items)).1 = reply) (same : (call.on (readable items)).2 = readable items) (n : Nat) :
    Step s shelf items call reply { s with drawn := n } where
  answer := answer.symm
  after := ⟨items, holds.of_folder rfl rfl, id, same.symm, rfl⟩
  untouched _ := rfl
  folder := .inl rfl

/-- A call that writes a list of workflows behind which the unreadable items stand. -/
theorem Step.of_store (holds : s.Holds shelf items) {l : List Workflow} (storable : ∀ w ∈ l, w.Storable)
    (kept : l.map Workflow.recorded = (call.on (readable items)).2) {reply : Except Failure WorkflowReply}
    (answer : (call.on (readable items)).1 = reply) (writes : call.writes (readable items) = true) (n : Nat) :
    Step s shelf items call reply (storeWorkflows shelf l (unreadable items) { s with drawn := n }).2 := by
  have broken (item : Json) (mem : item ∈ unreadable items) : ofItem? item = none :=
    Option.isNone_iff_eq_none.mp (List.mem_filter.mp mem).2
  have plain (item : Json) (mem : item ∈ unreadable items) := holds.isPlain item (List.mem_filter.mp mem).1
  have kind : ({ s with drawn := n } : Store).keeping = .files shelf := holds.kind
  refine ⟨answer.symm, ⟨_, holds_storeWorkflows kind storable plain broken,
    fun _ => lists_storeWorkflows storable plain, ?_, unreadable_written storable broken⟩, fun none => ?_,
    .inr ⟨_, rfl⟩⟩
  · rw [readable_written storable broken, kept]
  · rw [writes] at none
    cases none

/-- A workflow may be changed if what it becomes can be written. -/
theorem step_update (holds : s.Holds shelf items) {id : String} {change : Workflow → Workflow}
    (typed : ∀ w ∈ readable items, w.id = id → (change w).Storable) :
    Step s shelf items (.update id change) (run (.update id change) s).1 (run (.update id change) s).2 := by
  obtain ⟨n, loaded⟩ := loadWorkflows_apply holds
  have there (w : Workflow) (mem : w ∈ readable items) := (holds.storable w mem).1
  have same (w : Workflow) (mem : w ∈ readable items) := (holds.storable w mem).2
  have updated := updateWorkflow_files holds.kind loaded id change
  cases found : (readable items).find? fun w => w.id = id with
  | none =>
    rw [found] at updated
    rw [run, map_eq_pure_bind, Act.bind_run_error updated]
    exact .of_look holds (by simp only [on, found]) (by simp only [on, found]) n
  | some w =>
    have mem := List.mem_of_find?_eq_some found
    have own : w.id = id := by simpa using List.find?_some found
    have present : ((readable items).any fun w => w.id = id) = true :=
      List.any_eq_true.mpr ⟨w, mem, by simpa using own⟩
    have ran : run (.update id change) s = (.ok (.updated (change w)), (storeWorkflows shelf
        (place id (change w) (readable items)) (unreadable items) { s with drawn := n }).2) := by
      rw [run, map_eq_pure_bind, Act.bind_run_ok (updated.trans (by rw [found])), placeWorkflow_eq]
      rfl
    rw [ran]
    refine .of_store holds (fun other mem => ?_) ((map_place same _ _).trans ?_) (by simp only [on, found])
      (show writes (readable items) (.update id change) = true from present) n
    · rcases mem_place mem with rfl | mem
      · exact typed w ‹_› own
      · exact there other mem
    · simp only [on, found]

theorem step_save (holds : s.Holds shelf items) {w : Workflow} (storable : w.Storable) :
    Step s shelf items (.save w) (run (.save w) s).1 (run (.save w) s).2 := by
  obtain ⟨n, loaded⟩ := loadWorkflows_apply holds
  rw [run, Act.bind_run_ok (saveWorkflow_files holds.kind loaded w), placeWorkflow_eq]
  refine .of_store holds (fun other mem => ?_) (map_place (fun w mem => (holds.storable w mem).2) _ _) rfl rfl n
  rcases mem_place mem with rfl | mem
  · exact storable
  · exact (holds.storable other mem).1

theorem step_delete (holds : s.Holds shelf items) (id : String) :
    Step s shelf items (.delete id) (run (.delete id) s).1 (run (.delete id) s).2 := by
  obtain ⟨n, loaded⟩ := loadWorkflows_apply holds
  have kept (w : Workflow) (mem : w ∈ (readable items).filter fun w => w.id ≠ id) :=
    holds.storable w (List.mem_filter.mp mem).1
  have deleted := deleteWorkflow_files holds.kind loaded id
  cases present : (readable items).any fun w => w.id = id with
  | true =>
    have ran : run (.delete id) s = (.ok (.deleted true), (storeWorkflows shelf
        ((readable items).filter fun w => w.id ≠ id) (unreadable items) { s with drawn := n }).2) := by
      rw [run, map_eq_pure_bind, Act.bind_run_ok (deleted.trans (if_pos present))]
      rfl
    rw [ran]
    refine .of_store holds (fun other mem => (kept other mem).1) ?_ (by simp only [on, present])
      (show writes (readable items) (.delete id) = true from present) n
    exact map_recorded fun other mem => (kept other mem).2
  | false =>
    have none : ∀ w ∈ readable items, decide (w.id ≠ id) = true := by simpa using present
    have ran : run (.delete id) s = (.ok (.deleted false), { s with drawn := n }) := by
      rw [run, map_eq_pure_bind, Act.bind_run_ok (deleted.trans (if_neg (by simp [present])))]
      rfl
    rw [ran]
    exact .of_look holds (by simp only [on, present])
      (show (on (readable items) (.delete id)).2 = readable items from List.filter_eq_self.mpr none) n

theorem step (holds : s.Holds shelf items) (call : WorkflowCall) (typed : call.Typed) :
    Step s shelf items call (call.run s).1 (call.run s).2 := by
  obtain ⟨n, loaded⟩ := loadWorkflows_apply holds
  cases call with
  | save w => exact step_save holds typed
  | update id change => exact step_update holds fun w mem _ => typed w (holds.storable w mem).1
  | delete id => exact step_delete holds id
  | get id =>
    rw [run, map_eq_pure_bind, Act.bind_run_ok (workflow?_files holds.kind loaded id)]
    exact .of_look holds rfl rfl n
  | list =>
    rw [run, map_eq_pure_bind, Act.bind_run_ok (workflows_files holds.kind loaded)]
    exact .of_look holds rfl rfl n

/-- What has happened to the file after some calls: the list that they work on, and what cannot be read. -/
theorem holds_runAll (holds : s.Holds shelf items) (calls : List WorkflowCall) (typed : ∀ call ∈ calls, call.Typed) :
    ∃ items', (runAll calls s).Holds shelf items' ∧ (s.Lists shelf items → (runAll calls s).Lists shelf items') ∧
      readable items' = calls.foldl (fun l call => (call.on l).2) (readable items) ∧
      unreadable items' = unreadable items := by
  induction calls generalizing s items with
  | nil => exact ⟨items, holds, id, rfl, rfl⟩
  | cons call calls ih =>
    obtain ⟨next, held, lists, evolved, kept⟩ := (step holds call (typed call List.mem_cons_self)).after
    obtain ⟨last, held, lists', evolved', kept'⟩ := ih held fun call mem => typed call (List.mem_cons_of_mem _ mem)
    exact ⟨last, held, lists' ∘ lists, by rw [evolved', evolved, List.foldl_cons], kept'.trans kept⟩

/-- A workflow that was made at the start of the calendar. -/
def early : Workflow := .draft ⟨"a", ⟨0, some 0⟩⟩ "Report" [] []

/-- Items around a workflow: one that is no record, and a record without a name. -/
def mixed : List Json := [.int 5, early.toRecord, .object [("id", .text "lost")]]

theorem storable_early : early.Storable where
  accepted := by simp [Graph.Accepted, Workflow.graph, early, Workflow.draft]
  shown := by
    have shown : Instant.Shown ⟨0, some 0⟩ := ⟨by decide, by simp⟩
    exact ⟨by simp [early, Workflow.draft], shown, shown⟩
  plain := by decide

/-- A store with these items in its file of workflows. -/
def mixedStore : Store := ⟨⟨0, none⟩, 0, [("workflows.json", (Json.list mixed).fileText)], .files ⟨"."⟩⟩

end WorkflowCall

end Store

end TriggerFlow
