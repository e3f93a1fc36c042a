import TriggerFlow.Proofs.Execution.Record
import TriggerFlow.Proofs.Store.Shelved
import TriggerFlow.Proofs.Untouched

/-!
# The files of executions

Each execution has a file of its own, named by its identifier, that is read and written as a whole. The files together
are a mapping by identifiers on which every call of the store works as on a mapping in memory, and a list is all of them
that are selected, the newest first.
-/

namespace TriggerFlow

/-- An execution that a file keeps as it is. -/
structure Execution.Storable (e : Execution) : Prop where
  accepted : e.graph.Accepted
  written : e.Times Instant.Written
  plain : e.toRecord.isPlain = true

namespace Execution.Storable

variable {e : Execution}

theorem ofRecord_toRecord (storable : e.Storable) (fresh : Fresh) : ofRecord fresh e.toRecord = .value e := by
  have shown : e.Times Instant.Shown := storable.written.mono fun _ written => written.toShown
  have minutes : e.Times Instant.InMinutes := storable.written.mono fun _ written => written.minutes
  rw [Execution.ofRecord_toRecord fresh storable.accepted shown, minutes.recorded_eq]

theorem append (storable : e.Storable) {entry : LogEntry} (time : entry.time.Written)
    (plain : entry.toRecord.isPlain = true) : Storable { e with log := e.log ++ [entry] } where
  accepted := storable.accepted
  written := storable.written.append time
  plain := isPlain_append storable.plain plain

end Execution.Storable

/-- An identifier that can name a file. -/
def IsName (id : String) : Prop := '/' ∉ id.toList

namespace Text

theorem startsWith_iff {text front : String} : text.startsWith front = true ↔ ∃ rest, text = front ++ rest := by
  rw [String.startsWith_string_iff]
  constructor
  · rintro ⟨rest, is⟩
    exact ⟨String.ofList rest, String.toList_inj.mp (by rw [String.toList_append, String.toList_ofList, is])⟩
  · rintro ⟨rest, rfl⟩
    exact ⟨rest.toList, String.toList_append.symm⟩

theorem endsWith_iff {text ending : String} : text.endsWith ending = true ↔ ∃ front, text = front ++ ending := by
  rw [← String.endsWith_toSlice, String.Slice.endsWith_string_iff, String.copy_toSlice]
  constructor
  · rintro ⟨front, is⟩
    exact ⟨String.ofList front, String.toList_inj.mp (by rw [String.toList_append, String.toList_ofList, is])⟩
  · rintro ⟨front, rfl⟩
    exact ⟨front.toList, String.toList_append.symm⟩

theorem drop_front (front rest : String) : ((front ++ rest).drop front.length).toString = rest := by
  refine String.toList_inj.mp ?_
  have copy : ((front ++ rest).drop front.length).toString = ((front ++ rest).drop front.length).copy := rfl
  rw [copy, String.toList_copy_drop, String.toList_append, ← String.length_toList, List.drop_left]

end Text

namespace Shelf

variable (shelf : Shelf)

theorem inDirectory_executions (name : String) :
    inDirectory shelf.executions name = inDirectory shelf.executions "" ++ name := by
  rw [inDirectory_eq, inDirectory_eq, String.append_empty]

/-- No two executions have one file. -/
theorem execution_injective : Function.Injective shelf.execution := fun id other same => by
  rw [execution, execution, inDirectory_executions, shelf.inDirectory_executions (other ++ ".json"),
    String.append_right_inj, String.append_left_inj] at same
  exact same

/-- The name of the execution file at a path. -/
def fileName? (path : String) : Option String :=
  let front := inDirectory shelf.executions ""
  if path.startsWith front then
    let name := (path.drop front.length).toString
    if name.endsWith ".json" && !name.toList.contains '/' then some name else none
  else none

theorem fileName?_eq_some {path name : String} : shelf.fileName? path = some name ↔
    ∃ id, IsName id ∧ name = id ++ ".json" ∧ path = shelf.execution id := by
  unfold fileName?
  dsimp only
  constructor
  · intro found
    split at found
    · rename_i starts
      obtain ⟨rest, rfl⟩ := Text.startsWith_iff.mp starts
      rw [Text.drop_front] at found
      split at found
      · rename_i named
        cases found
        rw [Bool.and_eq_true, Text.endsWith_iff] at named
        obtain ⟨⟨id, rfl⟩, apart⟩ := named
        refine ⟨id, ?_, rfl, (shelf.inDirectory_executions _).symm⟩
        exact fun mem => by simp [mem] at apart
      · cases found
    · cases found
  · rintro ⟨id, named, rfl, rfl⟩
    have apart : (id ++ ".json").toList.contains '/' = false := by
      simpa [IsName] using named
    have path := shelf.inDirectory_executions (id ++ ".json")
    have ends : (id ++ ".json").endsWith ".json" = true := Text.endsWith_iff.mpr ⟨id, rfl⟩
    rw [execution, path, if_pos (Text.startsWith_iff.mpr ⟨_, rfl⟩), Text.drop_front, ends, apart]
    rfl

theorem executionFiles_perm (folder : Folder) :
    (shelf.executionFiles folder).Perm (folder.keys.filterMap shelf.fileName?) := List.mergeSort_perm _ _

theorem nodup_executionFiles {folder : Folder} (nodup : folder.keys.Nodup) : (shelf.executionFiles folder).Nodup := by
  refine (shelf.executionFiles_perm folder).nodup_iff.mpr (nodup.filterMap ?_)
  intro path other name found found'
  obtain ⟨id, -, rfl, rfl⟩ := shelf.fileName?_eq_some.mp found
  obtain ⟨id', -, same, rfl⟩ := shelf.fileName?_eq_some.mp found'
  rw [String.append_left_inj] at same
  rw [same]

theorem mem_executionFiles {folder : Folder} {name : String} : name ∈ shelf.executionFiles folder ↔
    ∃ id, IsName id ∧ name = id ++ ".json" ∧ shelf.execution id ∈ folder.keys := by
  rw [(shelf.executionFiles_perm folder).mem_iff, List.mem_filterMap]
  constructor
  · rintro ⟨path, mem, found⟩
    obtain ⟨id, named, rfl, rfl⟩ := shelf.fileName?_eq_some.mp found
    exact ⟨id, named, rfl, mem⟩
  · rintro ⟨id, named, rfl, mem⟩
    exact ⟨_, mem, shelf.fileName?_eq_some.mpr ⟨id, named, rfl, rfl⟩⟩

end Shelf

namespace Store

/-- What a store is asked to do with its executions. -/
inductive ExecutionCall where
  | save (e : Execution)
  | append (id : String) (entry : LogEntry)
  | get (id : String)
  | list (selection : Selection)

/-- What a store answers about its executions. -/
inductive ExecutionReply where
  | done
  | found (e : Option Execution)
  | listed (l : List Execution)
  deriving DecidableEq, Repr

namespace ExecutionCall

/-- Does what is asked. -/
def run : ExecutionCall → Act Store ExecutionReply
  | .save e => do
    saveExecution e
    pure .done
  | .append id entry => do
    appendLog id entry
    pure .done
  | .get id => .found <$> execution? id
  | .list selection => .listed <$> executions selection

/-- The calls whose identifiers can name files, and that hand over what a file keeps as it is. -/
def Typed : ExecutionCall → Prop
  | .save e => e.Storable ∧ IsName e.id
  | .append id entry => (entry.time.Written ∧ entry.toRecord.isPlain = true) ∧ IsName id
  | .get id => IsName id
  | .list _ => True

/-- The answer to a call on a mapping of executions, and the mapping after it. -/
def on (runs : Ordered Execution) : ExecutionCall → Except Failure ExecutionReply × Ordered Execution
  | .save e => (.ok .done, runs.set e.id e)
  | .append id entry =>
    match runs.get? id with
    | some e => (.ok .done, runs.set id { e with log := e.log ++ [entry] })
    | none => (.error (.executionMissing id), runs)
  | .get id => (.ok (.found (runs.get? id)), runs)
  | .list selection =>
    (match newestFirst (runs.values.filter selection.holds) with
    | .ok l => .ok (.listed l)
    | .error fault => .error (.time fault), runs)

end ExecutionCall

/-- No two executions begin at one time. -/
def Apart (l : List Execution) : Prop := ∀ a ∈ l, ∀ b ∈ l, a.startedAt.same b.startedAt = true → a.id = b.id

section Order

variable {l l' found : List Execution}

theorem Apart.filter (apart : Apart l) (p : Execution → Bool) : Apart (l.filter p) := fun a mem b mem' =>
  apart a (List.mem_of_mem_filter mem) b (List.mem_of_mem_filter mem')

/-- Of executions that begin at different times, one comes before the other. -/
theorem eq_of_universal_eq (apart : Apart l) (once : (l.map Execution.id).Nodup)
    (kind : l.all (fun e => e.startedAt.isAware) = true ∨ l.all (fun e => !e.startedAt.isAware) = true)
    {a b : Execution} (mem : a ∈ l) (mem' : b ∈ l) (same : a.startedAt.universal = b.startedAt.universal) : a = b := by
  have aware : a.startedAt.isAware = b.startedAt.isAware := by
    rcases kind with all | all <;> rw [List.all_eq_true] at all
    · rw [all a mem, all b mem']
    · rw [← Bool.not_inj_iff, all a mem, all b mem']
  have here : a.startedAt.same b.startedAt = true := by simp [Instant.same, aware, same]
  exact List.inj_on_of_nodup_map once mem mem' (apart a mem b mem' here)

/-- The order of a list of executions is that of their begins, whatever order they come in. -/
theorem newestFirst_perm (perm : l.Perm l') (apart : Apart l) (once : (l.map Execution.id).Nodup) :
    newestFirst l = newestFirst l' := by
  have all (p : Execution → Bool) : l.all p = l'.all p := by
    rw [Bool.eq_iff_iff, List.all_eq_true, List.all_eq_true]
    exact ⟨fun each e mem => each e (perm.mem_iff.mpr mem), fun each e mem => each e (perm.mem_iff.mp mem)⟩
  unfold newestFirst
  dsimp only
  rw [all, all]
  split
  · rename_i kind
    rw [← all, ← all, Bool.or_eq_true] at kind
    have total (a b : Execution) : (decide (b.startedAt.universal ≤ a.startedAt.universal) ||
        decide (a.startedAt.universal ≤ b.startedAt.universal)) = true := by simp [le_total]
    have trans (a b c : Execution) (first : decide (b.startedAt.universal ≤ a.startedAt.universal) = true)
        (second : decide (c.startedAt.universal ≤ b.startedAt.universal) = true) :
        decide (c.startedAt.universal ≤ a.startedAt.universal) = true := by
      rw [decide_eq_true_eq] at first second ⊢
      exact second.trans first
    refine congrArg Except.ok (List.Perm.eq_of_pairwise ?_ (List.pairwise_mergeSort trans total l)
      (List.pairwise_mergeSort trans total l') ?_)
    · intro a b mem mem' first second
      rw [decide_eq_true_eq] at first second
      rw [List.mem_mergeSort] at mem mem'
      exact eq_of_universal_eq apart once kind mem (perm.mem_iff.mpr mem') (le_antisymm second first)
    · exact (List.mergeSort_perm _ _).trans (perm.trans (List.mergeSort_perm _ _).symm)
  · rfl

/-- A list of executions is in order, or some of them cannot be compared. -/
theorem newestFirst_spec (apart : Apart l) (once : (l.map Execution.id).Nodup) : match newestFirst l with
    | .ok found => found.Perm l ∧ found.Pairwise fun a b => b.startedAt.universal < a.startedAt.universal
    | .error fault => fault = .mixedOrder ∧
      ∃ a ∈ l, ∃ b ∈ l, a.startedAt.isAware = true ∧ b.startedAt.isAware = false := by
  unfold newestFirst
  dsimp only
  by_cases kind : (l.all (fun e => e.startedAt.isAware) || l.all fun e => !e.startedAt.isAware) = true
  · rw [if_pos kind]
    rw [Bool.or_eq_true] at kind
    have sorted : (l.mergeSort fun a b => decide (b.startedAt.universal ≤ a.startedAt.universal)).Pairwise fun a b =>
        decide (b.startedAt.universal ≤ a.startedAt.universal) = true := by
      refine List.pairwise_mergeSort (fun a b c first second => ?_) (fun a b => ?_) l
      · rw [decide_eq_true_eq] at first second ⊢
        exact second.trans first
      · simp [le_total]
    have perm := List.mergeSort_perm l fun a b => decide (b.startedAt.universal ≤ a.startedAt.universal)
    have distinct := perm.nodup_iff.mpr once.of_map
    refine ⟨perm, (sorted.and distinct).imp_of_mem fun {a b} mem mem' => ?_⟩
    rw [decide_eq_true_eq]
    rintro ⟨le, ne⟩
    exact lt_of_le_of_ne le fun same =>
      ne (eq_of_universal_eq apart once kind (perm.mem_iff.mp mem) (perm.mem_iff.mp mem') same.symm)
  · rw [if_neg kind]
    rw [Bool.or_eq_true, not_or, List.all_eq_true, List.all_eq_true] at kind
    push Not at kind
    obtain ⟨⟨b, mem, naive⟩, a, mem', aware⟩ := kind
    exact ⟨rfl, a, mem', b, mem, by simpa using aware, by simpa using naive⟩

end Order

/-- Executions are kept on a shelf, each in the file of its identifier. -/
structure Files (s : Store) (shelf : Shelf) (runs : Ordered Execution) : Prop where
  kind : s.keeping = .files shelf
  indexed : runs.Indexed Execution.id
  storable : ∀ e ∈ runs.values, e.Storable ∧ IsName e.id
  distinct : s.folder.keys.Nodup
  file : ∀ id, IsName id → s.folder.get? (shelf.execution id) = (runs.get? id).map fun e => e.toRecord.fileText

/-- The execution in a file. -/
def executionIn? (folder : Folder) (path : String) : Option Execution :=
  ((folder.get? path).bind Json.read?).bind fun datum => (Execution.ofRecord default datum).value?

namespace Files

variable {s s' : Store} {shelf : Shelf} {runs : Ordered Execution} (files : s.Files shelf runs)
include files

/-- The same files, whatever identifiers have been drawn. -/
theorem of_folder (kind : s'.keeping = s.keeping) (folder : s'.folder = s.folder) : s'.Files shelf runs :=
  ⟨kind.trans files.kind, files.indexed, files.storable, folder ▸ files.distinct, folder ▸ files.file⟩

theorem storable_of_get? {id : String} {e : Execution} (found : runs.get? id = some e) : e.Storable ∧ IsName e.id :=
  files.storable e (List.mem_map.mpr ⟨_, Ordered.mem_of_get? found, rfl⟩)

/-- What has been written for an execution is read again. -/
theorem read {id : String} (named : IsName id) (fresh : Fresh) :
    ((s.folder.get? (shelf.execution id)).bind Json.read?).bind (fun datum => (Execution.ofRecord fresh datum).value?) =
      runs.get? id := by
  rw [files.file id named]
  cases found : runs.get? id with
  | none => rfl
  | some e =>
    have storable := (files.storable_of_get? found).1
    rw [Option.map_some, Option.bind_some, Json.read?, Json.read_fileText_of_isPlain storable.plain]
    exact congrArg Reading.value? (storable.ofRecord_toRecord fresh)

theorem loadExecution_apply {id : String} (named : IsName id) :
    ∃ n, loadExecution (shelf.execution id) s = (.ok (runs.get? id), { s with drawn := n }) := by
  have text : fileText (shelf.execution id) s = (.ok (s.folder.get? (shelf.execution id)), s) := rfl
  have here := files.read named s.fresh
  rw [loadExecution, Act.bind_run_ok text]
  cases found : (s.folder.get? (shelf.execution id)).bind Json.read? with
  | none =>
    rw [found] at here
    exact ⟨s.drawn, by rw [← here]; rfl⟩
  | some datum =>
    obtain ⟨n, reads⟩ := readRecord_apply Execution.ofRecord datum s
    rw [found] at here
    exact ⟨n, by dsimp only; rw [map_eq_pure_bind, Act.bind_run_ok reads, ← here]; rfl⟩

theorem loadExecutions_apply {names : List String} (named : ∀ name ∈ names, ∃ id, IsName id ∧ name = id ++ ".json") :
    ∃ n, loadExecutions shelf names s = (.ok (names.filterMap fun name =>
      executionIn? s.folder (inDirectory shelf.executions name)), { s with drawn := n }) := by
  induction names generalizing s with
  | nil => exact ⟨s.drawn, rfl⟩
  | cons name names ih =>
    obtain ⟨id, is, rfl⟩ := named _ List.mem_cons_self
    obtain ⟨n, first⟩ : ∃ n, loadExecution (inDirectory shelf.executions (id ++ ".json")) s =
      (.ok (runs.get? id), { s with drawn := n }) := files.loadExecution_apply is
    have drawn : Files { s with drawn := n } shelf runs := files.of_folder rfl rfl
    obtain ⟨m, others⟩ := ih drawn fun name mem => named name (List.mem_cons_of_mem _ mem)
    have here : executionIn? s.folder (inDirectory shelf.executions (id ++ ".json")) = runs.get? id :=
      files.read is default
    refine ⟨m, ?_⟩
    rw [loadExecutions, Act.bind_run_ok first, Act.bind_run_ok others, List.filterMap_cons, here]
    cases runs.get? id <;> rfl

/-- The files are those of the executions, in an order of their own. -/
theorem names_perm : (shelf.executionFiles s.folder).Perm (runs.keys.map fun id => id ++ ".json") := by
  have injective : Function.Injective fun id : String => id ++ ".json" := fun id other same =>
    (String.append_left_inj _).mp same
  refine (List.perm_ext_iff_of_nodup (shelf.nodup_executionFiles files.distinct)
    (files.indexed.nodup.map injective)).mpr fun name => ?_
  rw [shelf.mem_executionFiles, List.mem_map]
  constructor
  · rintro ⟨id, named, rfl, mem⟩
    obtain ⟨text, found⟩ := Ordered.exists_of_mem_keys files.distinct mem
    rw [files.file id named, Option.map_eq_some_iff] at found
    obtain ⟨e, found, -⟩ := found
    exact ⟨id, Ordered.mem_keys_of_get? found, rfl⟩
  · rintro ⟨id, mem, rfl⟩
    obtain ⟨e, found⟩ := Ordered.exists_of_mem_keys files.indexed.nodup mem
    have named := files.indexed.label_eq found ▸ (files.storable_of_get? found).2
    have text := files.file id named
    rw [found] at text
    exact ⟨id, named, rfl, Ordered.mem_keys_of_get? text⟩

theorem allExecutions_apply : ∃ n l, allExecutions s = (.ok l, { s with drawn := n }) ∧ l.Perm runs.values := by
  have named : ∀ name ∈ shelf.executionFiles s.folder, ∃ id, IsName id ∧ name = id ++ ".json" := fun name mem => by
    obtain ⟨id, is, same, -⟩ := shelf.mem_executionFiles.mp mem
    exact ⟨id, is, same⟩
  obtain ⟨n, loaded⟩ := files.loadExecutions_apply named
  have each : (runs.keys.map fun id => id ++ ".json").filterMap (fun name =>
      executionIn? s.folder (inDirectory shelf.executions name)) = runs.values := by
    rw [List.filterMap_map, ← Ordered.filterMap_keys files.indexed.nodup]
    refine List.filterMap_congr fun id mem => ?_
    obtain ⟨e, found⟩ := Ordered.exists_of_mem_keys files.indexed.nodup mem
    exact files.read (files.indexed.label_eq found ▸ (files.storable_of_get? found).2) default
  exact ⟨n, _, (allExecutions_files files.kind).trans loaded, each ▸ files.names_perm.filterMap _⟩

/-- The file of an execution has been written. -/
theorem written {e : Execution} (storable : e.Storable) (named : IsName e.id) (n : Nat) :
    Files { s with drawn := n, folder := s.folder.set (shelf.execution e.id) e.toRecord.fileText } shelf
      (runs.set e.id e) where
  kind := files.kind
  indexed := files.indexed.set e
  storable other mem := by
    obtain ⟨pair, within, rfl⟩ := List.mem_map.mp mem
    rcases Ordered.mem_of_mem_set within with old | rfl
    · exact files.storable _ (List.mem_map.mpr ⟨pair, old, rfl⟩)
    · exact ⟨storable, named⟩
  distinct := Ordered.nodup_set files.distinct _ _
  file id is := by
    rw [Ordered.get?_set, Ordered.get?_set]
    by_cases own : id = e.id
    · subst own
      rw [Function.update_self, Function.update_self]
      rfl
    · rw [Function.update_of_ne own, Function.update_of_ne fun same => own (shelf.execution_injective same)]
      exact files.file id is

end Files

namespace ExecutionCall

/-- One call on a store whose executions are a mapping: the answer, and the mapping after it. Definitions stay as they
are. -/
structure Step (call : ExecutionCall) (runs : Ordered Execution) (holds : Ordered Execution → Store → Prop)
    (same : Store → Prop) (outcome : Except Failure ExecutionReply × Store) : Prop where
  answer : outcome.1 = (call.on runs).1
  after : holds (call.on runs).2 outcome.2
  same : same outcome.2

variable {s : Store} {shelf : Shelf} {runs : Ordered Execution}

/-- What a call does to executions in files. The file of workflows stays as it is. -/
abbrev StepInFiles (s : Store) (shelf : Shelf) (runs : Ordered Execution) (call : ExecutionCall) : Prop :=
  call.Step runs (fun runs s' => s'.Files shelf runs)
    (fun s' => s'.folder.get? shelf.workflows = s.folder.get? shelf.workflows) (call.run s)

section Files

variable (files : s.Files shelf runs)
include files

theorem step_save {e : Execution} (storable : e.Storable) (named : IsName e.id) : StepInFiles s shelf runs (.save e) := by
  have ran : run (.save e) s = (.ok .done,
      { s with folder := s.folder.set (shelf.execution e.id) e.toRecord.fileText }) := by
    rw [run, Act.bind_run_ok (saveExecution_files files.kind e)]
    rfl
  rw [StepInFiles, ran]
  exact ⟨rfl, files.written storable named s.drawn, Ordered.get?_set_of_ne _ _ (shelf.execution_ne_workflows _)⟩

theorem step_append {id : String} {entry : LogEntry} (typed : (append id entry).Typed) :
    StepInFiles s shelf runs (.append id entry) := by
  obtain ⟨n, loaded⟩ := files.loadExecution_apply typed.2
  have appended := appendLog_files files.kind loaded entry
  cases found : runs.get? id with
  | none =>
    have ran : run (.append id entry) s = (.error (.executionMissing id), { s with drawn := n }) := by
      rw [run, Act.bind_run_error (appended.trans (by rw [found]; rfl))]
    rw [StepInFiles, ran]
    refine ⟨by simp only [on, found], ?_, rfl⟩
    simp only [on, found]
    exact files.of_folder rfl rfl
  | some e =>
    obtain rfl := files.indexed.label_eq found
    have kind : ({ s with drawn := n } : Store).keeping = .files shelf := files.kind
    have ran : run (.append e.id entry) s = (.ok .done, { s with
        drawn := n
        folder := Ordered.set s.folder (shelf.execution e.id)
          (Execution.toRecord { e with log := e.log ++ [entry] }).fileText }) := by
      rw [found] at appended
      rw [run, Act.bind_run_ok (appended.trans (saveExecution_files kind _))]
      rfl
    obtain ⟨storable, named⟩ := files.storable_of_get? found
    rw [StepInFiles, ran]
    refine ⟨by simp only [on, found], ?_, Ordered.get?_set_of_ne _ _ (shelf.execution_ne_workflows _)⟩
    simp only [on, found]
    exact files.written (storable.append typed.1.1 typed.1.2) named n

theorem step_get {id : String} (named : IsName id) : StepInFiles s shelf runs (.get id) := by
  obtain ⟨n, loaded⟩ := files.loadExecution_apply named
  have ran : run (.get id) s = (.ok (.found (runs.get? id)), { s with drawn := n }) := by
    rw [run, map_eq_pure_bind, Act.bind_run_ok ((execution?_files files.kind id).trans loaded)]
    rfl
  rw [StepInFiles, ran]
  exact ⟨rfl, files.of_folder rfl rfl, rfl⟩

/-- Runs that begin at different times are listed in the same order whatever the order of their files. -/
theorem step_list (apart : Apart runs.values) (selection : Selection) :
    StepInFiles s shelf runs (.list selection) := by
  obtain ⟨n, l, loaded, perm⟩ := files.allExecutions_apply
  have once : (l.map Execution.id).Nodup := (perm.map Execution.id).nodup_iff.mpr files.indexed.values_nodup
  have sorted := newestFirst_perm (perm.filter selection.holds)
    (Apart.filter (fun a mem b mem' => apart a (perm.mem_iff.mp mem) b (perm.mem_iff.mp mem')) _)
    ((List.filter_sublist.map Execution.id).nodup once)
  have ran : run (.list selection) s =
      ((match newestFirst (runs.values.filter selection.holds) with
        | .ok l => .ok (.listed l)
        | .error fault => .error (.time fault)), { s with drawn := n }) := by
    rw [run, map_eq_pure_bind, executions, bind_assoc, Act.bind_run_ok loaded, sorted]
    cases newestFirst (runs.values.filter selection.holds) <;> rfl
  rw [StepInFiles, ran]
  exact ⟨rfl, files.of_folder rfl rfl, rfl⟩

theorem step_files (apart : Apart runs.values) (call : ExecutionCall) (typed : call.Typed) :
    StepInFiles s shelf runs call := by
  cases call with
  | save e => exact step_save files typed.1 typed.2
  | append id entry => exact step_append files typed
  | get id => exact step_get files typed
  | list selection => exact step_list files apart selection

end Files

theorem step_memory (kept : s.InMemory) (call : ExecutionCall) :
    call.Step s.runs (fun runs s' => s'.InMemory ∧ s'.runs = runs) (fun s' => s'.definitions = s.definitions)
      (call.run s) := by
  have ran : call.run.Ensures s
      (fun reply s' => .ok reply = (call.on s.runs).1 ∧ Reruns s (call.on s.runs).2 s')
      fun f s' => .error f = (call.on s.runs).1 ∧ Reruns s (call.on s.runs).2 s' := by
    cases call with
    | save e =>
      exact Act.ensures_bind.mpr ((saveExecution_spec kept e).mono
        (fun _ s' reruns => Act.ensures_pure.mpr ⟨rfl, reruns⟩) fun _ _ none => none.elim)
    | append id entry =>
      refine Act.ensures_bind.mpr ((appendLog_spec kept id entry).mono ?_ ?_)
      · rintro _ s' ⟨e, found, reruns⟩
        simp only [on, found]
        exact ⟨rfl, reruns⟩
      · rintro _ s' ⟨rfl, missing, rfl⟩
        simp only [on, missing]
        exact ⟨trivial, kept.reruns⟩
    | get id =>
      refine Act.ensures_map.mpr ((execution?_spec kept id).mono ?_ fun _ _ none => none.elim)
      rintro _ s' ⟨rfl, rfl⟩
      exact ⟨rfl, kept.reruns⟩
    | list selection =>
      refine Act.ensures_map.mpr ((Act.ensures_bind_of_ok (allExecutions_memory kept)).mpr (Act.ensures_lift.mpr ⟨?_, ?_⟩))
      · intro found sorted
        simp only [on, sorted]
        exact ⟨trivial, kept.reruns⟩
      · intro fault mixed
        simp only [on, mixed]
        exact ⟨trivial, kept.reruns⟩
  obtain ⟨answer, reruns⟩ := ran.answer
  exact ⟨answer, ⟨reruns.kept, reruns.runs⟩, reruns.definitions⟩

end ExecutionCall

end Store

end TriggerFlow
