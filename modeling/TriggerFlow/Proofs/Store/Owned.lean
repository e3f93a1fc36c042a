import TriggerFlow.Proofs.Store.Executions

/-!
# Files of their own

The file of an execution holds the record of this execution, if it holds one at all. So what is read in it is up to the
text and the time, whatever identifiers have been drawn. What is done with one execution is done in its own file, and
leaves the files of the others and that of the workflows as they are.
-/

namespace TriggerFlow

open Record

namespace Execution

/-- At the same time, what a new record would take decides nothing but an identifier that is left out. -/
theorem exists_ofRecord {fresh : Fresh} {datum : Json} {e : Execution} (reads : ofRecord fresh datum = .value e)
    (other : Fresh) (now : other.now = fresh.now) : ∃ id, ofRecord other datum = .value { e with id := id } := by
  cases datum with
  | object m =>
    obtain ⟨named, workflow, status, trigger, started, completed, node, vars, log, error, graph, wait⟩ :=
      ofRecord_eq_value_iff.mp reads
    obtain ⟨id, again, -⟩ := Workflow.exists_optional named other.id
    have entries : LogEntry.ofRecord other = LogEntry.ofRecord fresh := by
      unfold LogEntry.ofRecord
      rw [now]
    refine ⟨id, ofRecord_eq_value_iff.mpr ⟨again, workflow, status, trigger, now ▸ started, completed, node, vars, ?_,
      error, graph, wait⟩⟩
    rw [entries]
    exact log
  | _ => cases reads

/-- A text that is read as the execution with an identifier, if it is read as an execution. -/
def Owned (id : String) (text : Option String) : Prop :=
  ∀ datum ∈ text.bind Json.read?, ∀ fresh e, ofRecord fresh datum = .value e → e.id = id

/-- The execution in a text. -/
def inText? (time : Instant) (text : Option String) : Option Execution :=
  (text.bind Json.read?).bind fun datum => (ofRecord ⟨"", time⟩ datum).value?

namespace Owned

variable {id : String} {text : Option String} {e : Execution}

theorem none : Owned id none := fun _ mem => nomatch mem

/-- The identifiers that have been drawn do not matter. -/
theorem value?_eq (owned : Owned id text) {datum : Json} (mem : datum ∈ text.bind Json.read?) (fresh : Fresh) :
    (ofRecord fresh datum).value? = inText? fresh.now text := by
  rw [inText?, Option.mem_def.mp mem, Option.bind_some]
  cases reads : ofRecord fresh datum with
  | value e =>
    obtain ⟨id', again⟩ := exists_ofRecord reads ⟨"", fresh.now⟩ rfl
    have same : id' = e.id := (owned datum mem _ _ again).trans (owned datum mem _ _ reads).symm
    rw [again, same]
  | issues found =>
    cases again : ofRecord ⟨"", fresh.now⟩ datum with
    | value e =>
      obtain ⟨id', absurd⟩ := exists_ofRecord again fresh rfl
      rw [reads] at absurd
      cases absurd
    | issues => rfl

theorem id_eq (owned : Owned id text) {time : Instant} (found : inText? time text = some e) : e.id = id := by
  obtain ⟨datum, mem, value⟩ := Option.bind_eq_some_iff.mp found
  cases reads : ofRecord ⟨"", time⟩ datum with
  | value e' =>
    rw [reads] at value
    cases value
    exact owned datum mem _ _ reads
  | issues =>
    rw [reads] at value
    cases value

/-- What is written for an execution is its own: the identifier is the first member of the record. -/
theorem of_written (e : Execution) : Owned e.id (some e.toRecord.fileText) := by
  intro datum mem fresh other reads
  rw [Option.mem_def, Option.bind_some, Json.read?, Json.read_fileText] at mem
  cases again : e.toRecord.reread with
  | error n =>
    rw [again] at mem
    cases mem
  | ok datum' =>
    rw [again] at mem
    cases mem
    obtain ⟨m, rfl, first⟩ := Json.get?_of_reread again (by simp)
    have named := (ofRecord_eq_value_iff.mp reads).1
    rw [optional_of_get? fresh.id first (text_text e.id)] at named
    exact (Reading.value.inj named).symm

end Owned

end Execution

namespace Store

open Execution (Owned inText?)

/-- The texts in the files of executions. -/
def texts (shelf : Shelf) (s : Store) : String → Option String := s.folder.get? ∘ shelf.execution

/-- Executions are kept on a shelf, each in a file of its own. -/
structure Filed (s : Store) (shelf : Shelf) : Prop where
  kind : s.keeping = .files shelf
  own : ∀ id, Owned id (s.texts shelf id)

/-- The files of executions hold what is told, and the clock stands where it stood. -/
structure Refiled (s : Store) (shelf : Shelf) (texts : String → Option String) (s' : Store) : Prop where
  filed : s'.Filed shelf
  now : s'.now = s.now
  texts : s'.texts shelf = texts

namespace Filed

variable {s : Store} {shelf : Shelf} (filed : s.Filed shelf)
include filed

theorem drawn (n : Nat) : s.Refiled shelf (s.texts shelf) { s with drawn := n } := ⟨⟨filed.kind, filed.own⟩, rfl, rfl⟩

/-- The file of one execution has been written. -/
theorem written (e : Execution) (n : Nat) :
    s.Refiled shelf (Function.update (s.texts shelf) e.id (some e.toRecord.fileText))
      { s with drawn := n, folder := s.folder.set (shelf.execution e.id) e.toRecord.fileText } := by
  have after : ({ s with drawn := n, folder := s.folder.set (shelf.execution e.id) e.toRecord.fileText } :
      Store).texts shelf = Function.update (s.texts shelf) e.id (some e.toRecord.fileText) := by
    rw [texts, texts, Ordered.get?_set, Function.update_comp_eq_of_injective _ shelf.execution_injective]
  refine ⟨⟨filed.kind, fun id => ?_⟩, rfl, after⟩
  rw [after]
  rcases eq_or_ne id e.id with rfl | ne
  · rw [Function.update_self]
    exact .of_written e
  · rw [Function.update_of_ne ne]
    exact filed.own id

theorem loadExecution_apply (id : String) : ∃ n, loadExecution (shelf.execution id) s =
    (.ok (inText? s.now (s.texts shelf id)), { s with drawn := n }) := by
  have text : fileText (shelf.execution id) s = (.ok (s.texts shelf id), s) := rfl
  rw [loadExecution, Act.bind_run_ok text]
  cases found : (s.texts shelf id).bind Json.read? with
  | none => exact ⟨s.drawn, by rw [inText?, found]; rfl⟩
  | some datum =>
    obtain ⟨n, reads⟩ := readRecord_apply Execution.ofRecord datum s
    refine ⟨n, ?_⟩
    dsimp only
    rw [map_eq_pure_bind, Act.bind_run_ok reads, (filed.own id).value?_eq found]
    rfl

theorem execution?_apply (id : String) : (execution? id s).1 = .ok (inText? s.now (s.texts shelf id)) ∧
    s.Refiled shelf (s.texts shelf) (execution? id s).2 := by
  obtain ⟨n, loaded⟩ := filed.loadExecution_apply id
  rw [execution?_files filed.kind, loaded]
  exact ⟨rfl, filed.drawn n⟩

theorem saveExecution_apply (e : Execution) : (saveExecution e s).1 = .ok () ∧
    s.Refiled shelf (Function.update (s.texts shelf) e.id (some e.toRecord.fileText)) (saveExecution e s).2 := by
  rw [saveExecution_files filed.kind]
  exact ⟨rfl, filed.written e s.drawn⟩

/-- An entry is added to the execution in a file if there is one. -/
theorem appendLog_apply (id : String) (entry : LogEntry) :
    (appendLog id entry s).1 =
      (inText? s.now (s.texts shelf id)).elim (.error (.executionMissing id)) (fun _ => .ok ()) ∧
    s.Refiled shelf (Function.update (s.texts shelf) id ((inText? s.now (s.texts shelf id)).elim (s.texts shelf id)
      fun e => some (Execution.toRecord { e with log := e.log ++ [entry] }).fileText)) (appendLog id entry s).2 := by
  obtain ⟨n, loaded⟩ := filed.loadExecution_apply id
  rw [appendLog_files filed.kind loaded]
  cases found : inText? s.now (s.texts shelf id) with
  | none =>
    rw [Option.elim_none, Option.elim_none, Option.elim_none, Function.update_eq_self]
    exact ⟨rfl, filed.drawn n⟩
  | some e =>
    obtain rfl := (filed.own id).id_eq found
    have drawn := filed.drawn n
    have written := drawn.filed.saveExecution_apply { e with log := e.log ++ [entry] }
    rw [drawn.texts] at written
    exact ⟨written.1, written.2.filed, written.2.now, written.2.texts⟩

end Filed

/-- Whatever becomes of the file of workflows, the files of executions stay. -/
theorem refiled_free (s : Store) (shelf : Shelf) (texts : String → Option String) :
    FreeOfWorkflows (s.Refiled shelf texts) where
  drawn refiled _ := ⟨⟨refiled.filed.kind, refiled.filed.own⟩, refiled.now, refiled.texts⟩
  memoryWorkflows kind refiled := nomatch kind.symm.trans refiled.filed.kind
  setWorkflows {s' other} kind refiled text := by
    obtain rfl := Keeping.files.inj (kind.symm.trans refiled.filed.kind)
    have same : ({ s' with folder := Ordered.set s'.folder other.workflows text } : Store).texts other =
        s'.texts other := by
      funext id
      exact Ordered.get?_set_of_ne _ _ (other.execution_ne_workflows id).symm
    exact ⟨⟨kind, fun id => same ▸ refiled.filed.own id⟩, refiled.now, same.trans refiled.texts⟩

end Store

end TriggerFlow
