import TriggerFlow.Proofs.Store.Calls
import TriggerFlow.Proofs.Store.Executions

/-!
# Stores in files and in memory

A store that keeps its records in files and one that keeps them in memory answer alike, whatever they are asked to do
with workflows and executions. Both start empty, and after each call the files tell what is in memory.
-/

namespace TriggerFlow

namespace Store

/-- What a store is asked to do with its records. -/
inductive Call where
  | workflows (call : WorkflowCall)
  | executions (call : ExecutionCall)

/-- What a store answers. -/
inductive Reply where
  | workflows (reply : WorkflowReply)
  | executions (reply : ExecutionReply)
  deriving DecidableEq, Repr

namespace WorkflowCall

/-- The calls that hand over what a file keeps as it is. An update sets members, and the identifier is none of them. -/
def Lasting : WorkflowCall → Prop
  | .save w => w.Storable ∧ w.Times Instant.Written
  | .update _ change => (∀ w, w.Storable → (change w).Storable) ∧
    (∀ w, w.Times Instant.Written → (change w).Times Instant.Written) ∧ ∀ w, (change w).id = w.id
  | _ => True

theorem Lasting.typed {call : WorkflowCall} (lasting : call.Lasting) : call.Typed := by
  cases call with
  | save w => exact lasting.1
  | update id change => exact lasting.1
  | _ => trivial

variable {s : Store} {m : Ordered Workflow}

/-- Setting a workflow under its identifier puts it in the place of the one that was there. -/
theorem values_set (indexed : m.Indexed Workflow.id) (w : Workflow) :
    (m.set w.id w).values = place w.id w m.values := by
  rw [← placeWorkflow_eq]
  have own := indexed.own
  clear indexed
  induction m with
  | nil => rfl
  | cons pair rest ih =>
    obtain ⟨k, v⟩ := pair
    obtain ⟨here, others⟩ := List.forall_mem_cons.mp own
    have here : v.id = k := here
    have values : Ordered.values ((k, v) :: rest) = v :: Ordered.values rest := rfl
    rw [values, placeWorkflow, here, Ordered.set]
    split
    · rfl
    · exact congrArg (v :: ·) (ih others)

theorem recorded_eq {w : Workflow} (written : w.Times Instant.Written) : w.recorded = w :=
  (written.mono fun _ written => written.minutes).recorded_eq

/-- In memory, a call works as on the list of workflows. -/
theorem step_memory (kept : s.InMemory) (written : ∀ w ∈ s.definitions.values, w.Times Instant.Written)
    (call : WorkflowCall) (lasting : call.Lasting) :
    (call.run s).1 = (call.on s.definitions.values).1 ∧ (call.run s).2.InMemory ∧ (call.run s).2.runs = s.runs ∧
      (call.run s).2.definitions.values = (call.on s.definitions.values).2 := by
  have indexed := kept.definitions
  refine Act.Ensures.answer (P := fun s' : Store => s'.InMemory ∧ s'.runs = s.runs ∧
    s'.definitions.values = (call.on s.definitions.values).2) ?_
  cases call with
  | save w =>
    refine Act.ensures_bind.mpr ((saveWorkflow_spec kept w).mono ?_ fun _ _ none => none.elim)
    intro _ s' redefines
    refine Act.ensures_pure.mpr ⟨rfl, redefines.kept, redefines.runs, ?_⟩
    rw [redefines.definitions, values_set indexed, on, recorded_eq lasting.2]
  | update id change =>
    refine Act.ensures_map.mpr ((updateWorkflow_spec kept id change lasting.2.2).mono ?_ ?_)
    · rintro _ s' ⟨old, found, rfl, redefines⟩
      have mem : old ∈ s.definitions.values := List.mem_map.mpr ⟨_, Ordered.mem_of_get? found, rfl⟩
      obtain rfl := indexed.label_eq found
      rw [on, indexed.find?_values, found]
      have same := recorded_eq (lasting.2.1 old (written old mem))
      refine ⟨rfl, redefines.kept, redefines.runs, ?_⟩
      rw [redefines.definitions]
      dsimp only
      rw [same, ← lasting.2.2 old, values_set indexed]
    · rintro f s' ⟨rfl, missing, rfl⟩
      rw [on, indexed.find?_values, missing]
      exact ⟨rfl, kept, rfl, rfl⟩
  | delete id =>
    refine Act.ensures_map.mpr ((deleteWorkflow_spec kept id).mono ?_ fun _ _ none => none.elim)
    rintro _ s' ⟨rfl, redefines⟩
    refine ⟨?_, redefines.kept, redefines.runs, ?_⟩
    · rw [on, indexed.any_values]
    · rw [redefines.definitions, indexed.values_erase, on]
  | get id =>
    refine Act.ensures_map.mpr ((workflow?_spec kept id).mono ?_ fun _ _ none => none.elim)
    rintro _ s' ⟨rfl, rfl⟩
    exact ⟨by rw [on, indexed.find?_values], kept, rfl, rfl⟩
  | list =>
    refine Act.ensures_map.mpr ((workflows_spec kept).mono ?_ fun _ _ none => none.elim)
    rintro _ s' ⟨rfl, rfl⟩
    exact ⟨rfl, kept, rfl, rfl⟩

end WorkflowCall

namespace Call

/-- Does what is asked. -/
def run : Call → Act Store Reply
  | .workflows call => .workflows <$> call.run
  | .executions call => .executions <$> call.run

/-- The calls that hand over what a file keeps as it is, under names that files can have. -/
def Lasting : Call → Prop
  | .workflows call => call.Lasting
  | .executions call => call.Typed

/-- The answers to calls, one after the other. -/
def replies : List Call → Store → List (Except Failure Reply)
  | [], _ => []
  | call :: calls, s => (call.run s).1 :: replies calls (call.run s).2

/-- The calls one after the other, whatever they answer. -/
def runAll (calls : List Call) (s : Store) : Store := calls.foldl (fun s call => (call.run s).2) s

/-- The executions that calls hand over. -/
def saved (calls : List Call) : List Execution :=
  calls.filterMap fun
    | .executions (.save e) => some e
    | _ => none

end Call

/-- An execution that a store gives by its identifier. -/
def Keeps (s : Store) (e : Execution) : Prop :=
  IsName e.id ∧ ((ExecutionCall.get e.id).run s).1 = .ok (.found (some e))

/-- Every list is of the executions that are selected, each once and the newest first; unless some of them begin with
an offset and some without. -/
def ListsNewestFirst (s : Store) : Prop := ∀ selection : Selection,
  match ((ExecutionCall.list selection).run s).1 with
  | .ok (.listed found) => (found.map Execution.id).Nodup ∧
    (found.Pairwise fun a b => b.startedAt.universal < a.startedAt.universal) ∧
    ∀ e, e ∈ found ↔ s.Keeps e ∧ selection.holds e = true
  | .ok _ => False
  | .error f => f = .time .mixedOrder ∧ ∃ a b, (s.Keeps a ∧ selection.holds a = true ∧ a.startedAt.isAware = true) ∧
    s.Keeps b ∧ selection.holds b = true ∧ b.startedAt.isAware = false

section Mirror

variable {s t : Store} {shelf : Shelf} {runs : Ordered Execution}

/-- What is answered from a mapping is listed newest first. -/
theorem listsNewestFirst_of_on (indexed : runs.Indexed Execution.id) (named : ∀ e ∈ runs.values, IsName e.id)
    (apart : Apart runs.values) (answers : ∀ call : ExecutionCall, call.Typed → (call.run s).1 = (call.on runs).1) :
    s.ListsNewestFirst := by
  have keeps (e : Execution) : s.Keeps e ↔ e ∈ runs.values := by
    constructor
    · rintro ⟨name, found⟩
      rw [answers (.get e.id) name] at found
      have found : runs.get? e.id = some e := by simpa [ExecutionCall.on] using found
      exact List.mem_map.mpr ⟨_, Ordered.mem_of_get? found, rfl⟩
    · intro mem
      have name := named e mem
      refine ⟨name, (answers (.get e.id) name).trans ?_⟩
      rw [ExecutionCall.on, indexed.get?_label mem]
  intro selection
  rw [answers (.list selection) trivial, ExecutionCall.on]
  have once := (List.filter_sublist (p := selection.holds) |>.map Execution.id).nodup indexed.values_nodup
  have sorted := newestFirst_spec (apart.filter selection.holds) once
  cases outcome : newestFirst (runs.values.filter selection.holds) with
  | ok found =>
    rw [outcome] at sorted
    obtain ⟨perm, newest⟩ := sorted
    refine ⟨(perm.map Execution.id).nodup_iff.mpr once, newest, fun e => ?_⟩
    rw [perm.mem_iff, List.mem_filter, keeps]
  | error fault =>
    rw [outcome] at sorted
    obtain ⟨rfl, a, mem, b, mem', aware, naive⟩ := sorted
    rw [List.mem_filter, ← keeps] at mem mem'
    exact ⟨rfl, a, b, ⟨mem.1, mem.2, aware⟩, mem'.1, mem'.2, naive⟩

/-- The files tell what is in memory. -/
structure Mirrors (t : Store) (shelf : Shelf) (s : Store) : Prop where
  memory : s.InMemory
  files : t.Files shelf s.runs
  workflows : ∃ items, t.Holds shelf items ∧ Workflow.readable items = s.definitions.values

/-- Each execution that is stored began as one that was handed over. -/
def Begun (handed : List Execution) (runs : Ordered Execution) : Prop :=
  ∀ e ∈ runs.values, ∃ first ∈ handed, first.id = e.id ∧ first.startedAt = e.startedAt

theorem Begun.apart {handed : List Execution} (begun : Begun handed runs) (apart : Apart handed) :
    Apart runs.values := fun a mem b mem' same => by
  obtain ⟨first, handed, id, start⟩ := begun a mem
  obtain ⟨second, handed', id', start'⟩ := begun b mem'
  rw [← id, ← id']
  exact apart first handed second handed' (by rw [start, start', same])

theorem Begun.set {handed : List Execution} (begun : Begun handed runs) {key : String} {e : Execution}
    (own : ∃ first ∈ handed, first.id = e.id ∧ first.startedAt = e.startedAt) : Begun handed (runs.set key e) := by
  intro other mem
  obtain ⟨pair, within, rfl⟩ := List.mem_map.mp mem
  rcases Ordered.mem_of_mem_set within with old | rfl
  · exact begun _ (List.mem_map.mpr ⟨pair, old, rfl⟩)
  · exact own

/-- What is done with an execution leaves its begin as it is, unless it is handed over again. -/
theorem Begun.on {handed : List Execution} (begun : Begun handed runs) (call : ExecutionCall)
    (saves : ∀ e, call = .save e → e ∈ handed) : Begun handed (call.on runs).2 := by
  cases call with
  | save e => exact begun.set ⟨e, saves e rfl, rfl, rfl⟩
  | append id entry =>
    rw [ExecutionCall.on]
    cases found : runs.get? id with
    | none => exact begun
    | some e => exact begun.set (begun e (List.mem_map.mpr ⟨_, Ordered.mem_of_get? found, rfl⟩))
  | get id => exact begun
  | list selection => exact begun

/-- The file of workflows holds no execution. -/
theorem Files.workflowsWritten (files : t.Files shelf runs) {t' : Store} (kind : t'.keeping = t.keeping)
    (folder : t'.folder = t.folder ∨ ∃ text, t'.folder = t.folder.set shelf.workflows text) : t'.Files shelf runs := by
  rcases folder with same | ⟨text, written⟩
  · exact files.of_folder kind same
  · refine ⟨kind.trans files.kind, files.indexed, files.storable, ?_, fun id named => ?_⟩
    · rw [written]
      exact Ordered.nodup_set files.distinct _ _
    · rw [written, Ordered.get?_set_of_ne _ _ (shelf.execution_ne_workflows id).symm, files.file id named]

namespace Call

theorem run_workflows (call : WorkflowCall) (s : Store) :
    (Call.workflows call).run s = ((call.run s).1.map .workflows, (call.run s).2) := by
  rw [run, map_eq_pure_bind, Act.bind_apply]
  rcases call.run s with ⟨_ | _, s'⟩ <;> rfl

theorem run_executions (call : ExecutionCall) (s : Store) :
    (Call.executions call).run s = ((call.run s).1.map .executions, (call.run s).2) := by
  rw [run, map_eq_pure_bind, Act.bind_apply]
  rcases call.run s with ⟨_ | _, s'⟩ <;> rfl

/-- One call: both stores answer alike, and the files tell again what is in memory. -/
theorem step (mirrors : t.Mirrors shelf s) {handed : List Execution} (begun : Begun handed s.runs)
    (apart : Apart handed) (call : Call) (lasting : call.Lasting) (saves : ∀ e ∈ saved [call], e ∈ handed) :
    (call.run t).1 = (call.run s).1 ∧ (call.run t).2.Mirrors shelf (call.run s).2 ∧
      Begun handed (call.run s).2.runs := by
  obtain ⟨kept, files, items, holds, same⟩ := mirrors
  cases call with
  | workflows call =>
    have stepped := WorkflowCall.step holds call lasting.typed
    obtain ⟨items', holds', -, evolved, -⟩ := stepped.after
    obtain ⟨answer, kept', runs, definitions⟩ :=
      WorkflowCall.step_memory kept (same ▸ holds.written) call lasting
    rw [run_workflows, run_workflows]
    refine ⟨?_, ⟨kept', ?_, items', holds', ?_⟩, runs ▸ begun⟩
    · rw [stepped.answer, answer, same]
    · exact runs ▸ files.workflowsWritten (holds'.kind.trans files.kind.symm) stepped.folder
    · rw [evolved, definitions, same]
  | executions call =>
    have stepped := ExecutionCall.step_files files (begun.apart apart) call lasting
    have memory := ExecutionCall.step_memory kept call
    rw [run_executions, run_executions]
    refine ⟨?_, ⟨memory.after.1, memory.after.2 ▸ stepped.after, items, ?_, ?_⟩, memory.after.2 ▸ begun.on call ?_⟩
    · rw [stepped.answer, memory.answer]
    · exact ⟨stepped.after.kind, by rw [stepped.same, holds.file], holds.own⟩
    · rw [memory.same, same]
    · rintro e rfl
      exact saves e (by simp [saved])

/-- Many calls: both stores answer alike at every one of them. -/
theorem replies_mirrors (mirrors : t.Mirrors shelf s) {handed : List Execution} (begun : Begun handed s.runs)
    (apart : Apart handed) (calls : List Call) (lasting : ∀ call ∈ calls, call.Lasting)
    (saves : ∀ e ∈ saved calls, e ∈ handed) :
    replies calls t = replies calls s ∧ (runAll calls t).Mirrors shelf (runAll calls s) ∧
      Begun handed (runAll calls s).runs := by
  induction calls generalizing s t with
  | nil => exact ⟨rfl, mirrors, begun⟩
  | cons call calls ih =>
    have first : saved [call] ⊆ saved (call :: calls) := fun e mem => by
      rw [saved, List.mem_filterMap] at mem ⊢
      obtain ⟨other, within, is⟩ := mem
      exact ⟨other, List.mem_cons.mpr (.inl (List.mem_singleton.mp within)), is⟩
    have others : saved calls ⊆ saved (call :: calls) := fun e mem => by
      rw [saved, List.mem_filterMap] at mem ⊢
      obtain ⟨other, within, is⟩ := mem
      exact ⟨other, List.mem_cons_of_mem _ within, is⟩
    obtain ⟨answer, mirrors, begun⟩ := step mirrors begun apart call (lasting call List.mem_cons_self) fun e mem =>
      saves e (first mem)
    obtain ⟨answers, mirrors, begun⟩ := ih mirrors begun (fun call mem => lasting call (List.mem_cons_of_mem _ mem))
      fun e mem => saves e (others mem)
    exact ⟨by rw [replies, replies, answer, answers], mirrors, begun⟩

/-- Stores that hold nothing yet. -/
def emptyMemory : Store := ⟨⟨0, some 0⟩, 0, [], .memory .empty⟩
def emptyFiles : Store := ⟨⟨0, some 0⟩, 0, [], .files ⟨"."⟩⟩

/-- A run that begins so many microseconds after the start of the calendar. -/
def runOf (id : String) (start : Int) : Execution :=
  ⟨id, "a", .pending, .manual, ⟨start, some 0⟩, none, none, [], [], none, ⟨[], [], 1⟩, none⟩

theorem written_of_small {start : Int} (small : Instant.inCalendar start = true) : Instant.Written ⟨start, some 0⟩ :=
  ⟨⟨small, by simp⟩, by simp [Instant.InMinutes]⟩

theorem storable_runOf {start : Int} (small : Instant.inCalendar start = true) {id : String}
    (plain : (runOf id start).toRecord.isPlain = true) : (runOf id start).Storable where
  accepted := by simp [Graph.Accepted, runOf]
  written := ⟨written_of_small small, by simp [runOf], by simp [runOf], by simp [runOf]⟩
  plain := plain

/-- A workflow that is saved and renamed, and two runs, the newer of which is logged. -/
def handing : List Call :=
  [.workflows (.save WorkflowCall.early), .workflows (.update "a" fun w => { w with name := "Renamed" }),
    .executions (.save (runOf "x" 0)), .executions (.save (runOf "y" 1)),
    .executions (.append "y" ⟨⟨2, some 0⟩, "t", "trigger", .success, "", none⟩), .executions (.list ⟨none, none⟩)]

theorem written_early : WorkflowCall.early.Times Instant.Written :=
  ⟨by simp [WorkflowCall.early, Workflow.draft], written_of_small (by decide), written_of_small (by decide)⟩

/-- A workflow that is given another identifier, and is looked for by its old one. -/
def relabelled : List Call :=
  [.workflows (.save WorkflowCall.early), .workflows (.update "a" fun w => { w with id := "b" }), .workflows (.get "a")]

end Call

end Mirror

end Store

end TriggerFlow
