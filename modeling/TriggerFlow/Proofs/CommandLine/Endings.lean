import TriggerFlow.CommandLine
import TriggerFlow.Proofs.CommandLine.Blame

/-!
# How commands end

A command that is given arguments it can read ends with an exit code, except where its faults are met outside of the
place that gives codes to faults: a log that is asked for a level it does not know, a refused graph that is
reported under a name of the log's own, and a number in a file under examination that cannot be read or weighed.
-/

namespace TriggerFlow.CommandLine

open Act (Yields Halts)
open Automation (files inStore_yields inStore_halts inStore_lenient inStore_run)

/-- An ending with one of the exit codes. -/
def Ending.Exits (ending : Ending) : Prop := ∃ code ≤ exitNotFound, ∃ output notes, ending = .exit code output notes

section Exits

theorem exits_noted {code : Nat} (known : code ≤ exitNotFound) (line : String) : (noted code line).Exits :=
  ⟨code, known, _, _, rfl⟩

theorem exits_printed {code : Nat} (known : code ≤ exitNotFound) (datum : Json) : (printed code datum).Exits :=
  ⟨code, known, _, _, rfl⟩

theorem exits_said (line : String) : (said line).Exits := ⟨0, by decide, _, _, rfl⟩

theorem exits_reportDefects (found : List Defect) : (reportDefects found).Exits :=
  exits_printed (by split <;> decide) _

theorem exits_showRun {e : Execution} {ending : Ending} (shown : showRun e = .ok ending) : ending.Exits := by
  unfold showRun at shown
  rcases told : summary e with _ | members <;> rw [told] at shown <;> cases shown
  exact exits_printed (by decide) _

theorem exits_ofFailure {level : Nat} {failure : Failure}
    (quiet : ∀ d, failure = .defect d → Log.shows level "" 30 = false) : (ofFailure level failure).Exits := by
  unfold ofFailure
  split
  case h_4 d => simpa [quiet d rfl] using exits_printed (by decide) _
  case h_7 => exact ⟨exitOther, by decide, _, _, rfl⟩
  all_goals exact exits_noted (by decide) _

end Exits

namespace Command

/-- The workflow that a command names. -/
def workflowId? : Command → Option String
  | .validateStored id | .export id _ | .enable id | .disable id | .run id _ _ => some id
  | .importFile _ _ id => id
  | _ => none

/-- The file in which a command expects the document of a graph. -/
def document? : Command → Option String
  | .validateFile path | .importFile path _ _ => some path
  | _ => none

/-- What a command reads before it looks its workflow up can be read. -/
def Ready (s : Store) : Command → Prop
  | .importFile path _ _ => ∃ text g, s.folder.read path = .ok text ∧ Graph.ofDocumentText text = .ok g
  | .run _ assignments _ => ∃ own, assigned assignments [] = .ok own
  | _ => True

end Command

/-- The graph that a command wants to be without defects before it goes on. -/
inductive Demands (s : Store) : Command → Graph → Prop where
  | enable {id : String} {w : Workflow} (stored : (Store.workflow? id s).1 = .ok (some w)) :
    Demands s (.enable id) w.graph
  | run {id : String} {assignments : List String} {vars own : Members} {w : Workflow}
    (given : assigned assignments [] = .ok own) (stored : (Store.workflow? id s).1 = .ok (some w))
    (enabled : w.enabled = true) : Demands s (.run id assignments vars) w.graph
  | replace {path id text : String} {name : Option String} {g : Graph} {w : Workflow}
    (read : s.folder.read path = .ok text) (described : Graph.ofDocumentText text = .ok g)
    (stored : (Store.workflow? id s).1 = .ok (some w)) (enabled : w.enabled = true) :
    Demands s (.importFile path name (some id)) { g with version := w.version + 1 }

/-- The graph that a command examines. -/
inductive Examines (s : Store) : Command → Graph → Prop where
  | stored {id : String} {w : Workflow} (stored : (Store.workflow? id s).1 = .ok (some w)) :
    Examines s (.validateStored id) w.graph
  | file {path text : String} {g : Graph} (read : s.folder.read path = .ok text)
    (described : Graph.ofDocumentText text = .ok g) : Examines s (.validateFile path) g

/-- A command is about a graph that does not validate, or about a text that is no document of a graph; or there is no
text to examine. -/
inductive Unfit (s : Store) (command : Command) : Prop where
  | demanded {g : Graph} {d : Defect} (demands : Demands s command g) (fails : g.Fails d)
  | examined {g : Graph} {d : Defect} (examines : Examines s command g) (fails : g.Fails d)
  | illegible {path text : String} {fault : Graph.DocumentFault} (named : command.document? = some path)
    (read : s.folder.read path = .ok text) (illegible : Graph.ofDocumentText text = .error fault)
    (digits : ∀ n, fault ≠ .notJson (.tooManyDigits n))
  | absent {path : String} {fault : FileFault} (examines : command = .validateFile path)
    (absent : s.folder.read path = .error fault)

/-- A command names what is not there. -/
inductive Unknown (s : Store) : Command → Prop where
  | workflow {command : Command} {id : String} (named : command.workflowId? = some id) (ready : command.Ready s)
    (missing : (Store.workflow? id s).1 = .ok none) : Unknown s command
  | execution {id : String} (missing : (Store.execution? id s).1 = .ok none) : Unknown s (.show id)
  | template {id : String} {category name : Option String} (given : id ≠ "")
    (missing : ∀ b ∈ Catalogue.all, b.id ≠ id) : Unknown s (.templates category (some id) name)

/-- What keeps the file at a path from being examined: an integer of too many digits, or one in the settings of the
graph that is too large to be weighed. -/
inductive Unexamined (folder : Folder) (path : String) : Escape → Prop where
  | digits {text : String} {n : Nat} (read : folder.read path = .ok text)
    (long : Graph.ofDocumentText text = .error (.notJson (.tooManyDigits n))) :
    Unexamined folder path (.failure (.document (.notJson (.tooManyDigits n))))
  | number {text : String} {g : Graph} {fault : Action.SettingFault} (read : folder.read path = .ok text)
    (described : Graph.ofDocumentText text = .ok g) (beyond : g.defects = .error fault) :
    Unexamined folder path (.failure (.setting fault))

section Files

variable {folder : Folder} {path text : String}

theorem Unexamined.escape {fault : Escape} (unexamined : Unexamined folder path fault) :
    validateFile folder path = .escape fault := by
  cases unexamined with
  | digits read long => simp only [validateFile, read, long]
  | number read described beyond => simp only [validateFile, read, described, beyond]

theorem validateFile_cases (folder : Folder) (path : String) :
    (validateFile folder path).Exits ∨ ∃ fault, Unexamined folder path fault := by
  unfold validateFile
  split
  · exact .inl (exits_noted (by decide) _)
  · rename_i text present
    split
    · rename_i n long
      exact .inr ⟨_, .digits present long⟩
    · exact .inl (exits_noted (by decide) _)
    · rename_i g described
      split
      · exact .inl (exits_reportDefects _)
      · rename_i fault beyond
        exact .inr ⟨_, .number present described beyond⟩

theorem validateFile_illegible {fault : Graph.DocumentFault} (read : folder.read path = .ok text)
    (illegible : Graph.ofDocumentText text = .error fault) (digits : ∀ n, fault ≠ .notJson (.tooManyDigits n)) :
    validateFile folder path = noted exitGraph fault.message := by
  simp only [validateFile, read, illegible]

variable {s : Store} (name id : Option String)

theorem importFile_run {document : Json} (read : s.folder.read path = .ok text)
    (parsed : Json.read text = .ok document) : importFile path name id s = (do
      let own := name.getD ""
      let w ← Store.importWorkflow document (some (if own = "" then fileStem path else own)) id
      pure (said ("Imported workflow " ++ w.id ++ " (" ++ w.name ++ "), version " ++ toString w.version)) :
        Act Store Ending) s := by
  refine (Act.bind_run_ok (x := Act.ask Store.folder) (a := s.folder) (t := s) rfl _).trans ?_
  simp only [read, parsed]

theorem importFile_illegible {fault : Graph.DocumentFault} (read : s.folder.read path = .ok text)
    (illegible : Graph.ofDocumentText text = .error fault) (digits : ∀ n, fault ≠ .notJson (.tooManyDigits n)) :
    (∃ line, importFile path name id s = (.ok (noted exitGraph line), s)) ∨
      importFile path name id s = (.error (.document fault), s) := by
  unfold Graph.ofDocumentText at illegible
  split at illegible
  · rename_i document parsed
    refine .inr ((importFile_run name id read parsed).trans (Act.bind_run_error (Act.bind_run_error ?_ _) _))
    rw [illegible]
    rfl
  · rename_i wrong parsed
    cases illegible
    refine .inl ⟨path ++ " is not valid JSON", ?_⟩
    refine (Act.bind_run_ok (x := Act.ask Store.folder) (a := s.folder) (t := s) rfl _).trans ?_
    cases wrong with
    | malformed =>
      simp only [read, parsed]
      rfl
    | tooManyDigits n => exact absurd rfl (digits n)

/-- A graph that takes the place of another is refused as the other workflow refuses it. -/
theorem importFile_halts {g : Graph} {id : String} {failure : Failure} (read : s.folder.read path = .ok text)
    (described : Graph.ofDocumentText text = .ok g)
    (halts : Halts Store.folder (Store.reviseWorkflow id (.value (Edit.ofGraph g))) s failure) :
    Halts Store.folder (importFile path name (some id)) s failure := by
  unfold Graph.ofDocumentText at described
  split at described
  · rename_i document parsed
    refine .of_run (.bind ?_ _) (importFile_run name (some id) read parsed)
    exact .after (t := s) (a := g) (by rw [described]; rfl) rfl halts
  · cases described

theorem importFile_yields (s : Store) : Yields Ending.Exits
    (fun d => ∃ g, Demands s (.importFile path name id) g ∧ g.Fails d) (importFile path name id) s := by
  refine .after (.ask _) fun folder t asked => ?_
  cases asked
  split
  · exact .fail (by simp)
  · rename_i text read
    split
    · exact .pure (exits_noted (by decide) _)
    · exact .fail (by simp)
    · rename_i document parsed
      refine .bind (show Yields (fun _ => True) _ _ _ from ?_) fun w _ _ => .pure (exits_said _)
      refine .after (.wrapped (by simp) _) fun g t run => ?_
      obtain ⟨made, rfl⟩ := Act.of_lift_run run
      have described : Graph.ofDocumentText text = .ok g := by simpa only [Graph.ofDocumentText, parsed] using made
      cases id with
      | none => exact (Store.draw_lenient.bind fun fresh => Store.createWorkflow_lenient rfl).yields
      | some id =>
        refine (Store.reviseWorkflow_yields id (Edit.ofGraph g) _).mono fun d ⟨w, stored, enabled, fails⟩ => ?_
        exact ⟨_, .replace read described stored enabled, fails⟩

end Files

theorem assigned_noDefect : ∀ (texts : List String) (m : Members), NoDefect (assigned texts m)
  | [], _ => .ok _
  | pair :: rest, m => by
    unfold assigned
    dsimp only
    split
    · exact .error (by simp)
    · split
      · exact .error (by simp)
      · split
        · exact assigned_noDefect rest _
        · exact assigned_noDefect rest _
        · exact .error (by simp)

section Perform

variable {δ : Type} (setup : Setup δ) (a : Automation δ) {command : Command}

theorem reportRuns_yields {blame : Defect → Prop} (judged : Bool) (es : List Execution) :
    Yields Ending.Exits blame (reportRuns judged es) a :=
  .after (.wrapped (by simp) _) fun _ _ _ => .pure (exits_printed (by split <;> decide) _)

theorem exportTo_yields {blame : Defect → Prop} (id : String) (output : Option String) (s : Store) :
    Yields Ending.Exits blame (exportTo id output) s := by
  refine .after (.bind (Store.theWorkflow_lenient id) fun w => .pure _) fun document _ _ => ?_
  cases output with
  | none => exact .pure (exits_printed (by decide) _)
  | some path =>
    refine .after (.ask _) fun folder _ _ => ?_
    split
    · exact .fail (by simp)
    · exact .after (.modify _) fun _ _ _ => .pure (exits_said _)

/-- A command other than to serve or to examine a file ends with an exit code or fails, for a defect only where it
demands that there is none. -/
theorem perform_yields (serves : ∀ host port, command ≠ .serve host port)
    (examines : ∀ path, command ≠ .validateFile path) :
    Yields Ending.Exits (fun d => ∃ g, Demands a.store command g ∧ g.Fails d) (perform setup command) a := by
  cases command with
  | validateStored id =>
    refine .map (inStore_lenient ?_) exits_reportDefects
    exact .bind (Store.theWorkflow_lenient id) fun w => .wrapped (by simp) _
  | validateFile path => exact absurd rfl (examines path)
  | importFile path name id => exact inStore_yields (importFile_yields name id a.store)
  | «export» id output => exact inStore_yields (exportTo_yields id output a.store)
  | enable id =>
    refine .bind (inStore_yields ((Store.enableWorkflow_yields id a.store).mono ?_)) fun _ _ _ => .pure (exits_said _)
    exact fun d ⟨w, stored, fails⟩ => ⟨w.graph, .enable stored, fails⟩
  | disable id =>
    refine .after (inStore_lenient ?_) fun _ _ _ => .pure (exits_said _)
    exact .bind (Store.theWorkflow_lenient id) fun _ => Store.updateWorkflow_lenient _ _
  | run id assignments vars =>
    refine .after (.lift (assigned_noDefect assignments [])) fun own b lifted => ?_
    obtain ⟨given, rfl⟩ := Act.of_lift_run lifted
    refine .bind ((Automation.run_yields setup _ id _).mono ?_) fun begun b _ => ?_
    · exact fun d ⟨w, stored, enabled, fails⟩ => ⟨w.graph, .run given stored enabled, fails⟩
    · refine .after (inStore_lenient (Store.theExecution_lenient _)) fun e _ _ => ?_
      exact .after (.wrapped (by simp) _) fun _ _ _ => .pure (exits_printed (by split <;> decide) _)
  | emit event payload =>
    refine .after (Automation.emit_lenient setup event payload) fun begun _ _ => ?_
    exact .after (inStore_lenient (.mapM (fun e => Store.theExecution_lenient e.id) begun)) fun es b _ =>
      reportRuns_yields b true es
  | tick context =>
    exact .after (Automation.tick_lenient setup none context) fun _ _ _ => .pure (exits_printed (by decide) _)
  | list workflowId status =>
    exact .after (inStore_lenient (Store.executions_lenient _)) fun es b _ => reportRuns_yields b false es
  | «show» id =>
    refine .after (inStore_lenient (Store.theExecution_lenient id)) fun e _ _ => ?_
    exact Act.ensures_lift.mpr ⟨fun ending shown => exits_showRun shown, fun _ _ => by simp⟩
  | templates category create name =>
    cases create with
    | none => exact .pure (exits_printed (by decide) _)
    | some id =>
      show Yields _ _ (if id = "" then _ else _) a
      split
      · exact .pure (exits_printed (by decide) _)
      · exact .after (inStore_lenient (Store.createFromTemplate_lenient id name)) fun _ _ _ => .pure (exits_said _)
  | serve host port => exact absurd rfl (serves host port)

theorem perform_refused {g : Graph} {d : Defect} (demands : Demands a.store command g) (fails : g.Fails d) :
    Halts files (perform setup command) a (.defect d) := by
  cases demands with
  | enable stored => exact (inStore_halts (Store.enableWorkflow_halts stored fails)).bind _
  | run given stored enabled =>
    refine .after (t := a) (by rw [given]; rfl) rfl ?_
    exact (Automation.run_refuses setup a _ _ stored enabled fails).bind _
  | replace read described stored enabled =>
    exact inStore_halts (importFile_halts _ read described (Store.reviseWorkflow_halts stored enabled fails))

theorem perform_workflow_unknown {id : String} (named : command.workflowId? = some id) (ready : command.Ready a.store)
    (missing : (Store.workflow? id a.store).1 = .ok none) :
    Halts files (perform setup command) a (.workflowMissing id) := by
  have unknown := Store.theWorkflow_halts missing
  cases command with
  | validateStored =>
    cases named
    exact (inStore_halts (unknown.bind _)).map _
  | importFile =>
    cases named
    obtain ⟨text, g, read, described⟩ := ready
    exact inStore_halts (importFile_halts _ read described (unknown.bind _))
  | «export» =>
    cases named
    exact inStore_halts ((unknown.bind _).bind _)
  | enable | disable =>
    cases named
    exact (inStore_halts (unknown.bind _)).bind _
  | run =>
    cases named
    obtain ⟨own, given⟩ := ready
    exact .after (t := a) (by rw [given]; rfl) rfl ((Automation.run_misses setup a _ _ missing).bind _)
  | validateFile | emit | tick | list | «show» | templates | serve => cases named

theorem perform_unknown (unknown : Unknown a.store command) :
    ∃ failure, Halts files (perform setup command) a failure ∧
      ∀ level, ofFailure level failure = noted exitNotFound failure.message := by
  cases unknown with
  | workflow named ready missing => exact ⟨_, perform_workflow_unknown setup a named ready missing, fun _ => rfl⟩
  | execution missing => exact ⟨_, (inStore_halts (Store.theExecution_halts missing)).bind _, fun _ => rfl⟩
  | @template id category name given missing =>
    refine ⟨.templateMissing id, ?_, fun _ => rfl⟩
    have none : Catalogue.named id = .error (.templateMissing id) := by
      rw [Catalogue.named, List.find?_eq_none.mpr (by simpa using missing)]
    show Halts files (if id = "" then _ else _) a _
    rw [if_neg given]
    refine (inStore_halts (.bind ?_ _)).bind _
    rw [none]
    exact .fail _ _

theorem perform_validateFile (path : String) :
    perform setup (.validateFile path) a = (.ok (validateFile a.store.folder path), a) := rfl

theorem perform_examined {g : Graph} {found : List Defect} (examines : Examines a.store command g)
    (checked : g.defects = .ok found) :
    ∃ b, perform setup command a = (.ok (reportDefects found), b) ∧ files b = files a := by
  cases examines with
  | stored stored =>
    obtain ⟨t, run, same, -⟩ := Store.theWorkflow_found stored
    have listed : Store.workflowDefects _ a.store = (.ok found, t) :=
      (Act.bind_run_ok run _).trans (by rw [checked]; rfl)
    refine ⟨a.withStore t, (Act.bind_run_ok (t := a.withStore t) (a := found) ?_ _).trans rfl, same⟩
    rw [inStore_run, listed]
  | file read described =>
    refine ⟨a, (perform_validateFile setup a _).trans ?_, rfl⟩
    simp only [validateFile, read, described, checked]

/-- What a failure or an ending comes to. -/
def outcome (level : Nat) : Except Failure Ending → Ending
  | .ok ending => ending
  | .error failure => ofFailure level failure

theorem perform_illegible {path text : String} {fault : Graph.DocumentFault} (named : command.document? = some path)
    (read : a.store.folder.read path = .ok text) (illegible : Graph.ofDocumentText text = .error fault)
    (digits : ∀ n, fault ≠ .notJson (.tooManyDigits n)) (level : Nat) :
    (∃ line, outcome level (perform setup command a).1 = noted exitGraph line) ∧
      files (perform setup command a).2 = files a := by
  cases command with
  | validateFile =>
    cases named
    rw [perform_validateFile]
    exact ⟨⟨_, validateFile_illegible read illegible digits⟩, rfl⟩
  | importFile path name id =>
    cases named
    rw [perform, inStore_run]
    obtain ⟨line, run⟩ | run := importFile_illegible name id read illegible digits <;> rw [run]
    · exact ⟨⟨line, rfl⟩, rfl⟩
    · exact ⟨⟨_, rfl⟩, rfl⟩
  | validateStored | «export» | enable | disable | run | emit | tick | list | «show» | templates | serve => cases named

end Perform

/-- The store of a process with its settings. -/
def under (settings : Settings) (store : Store) : Store := { store with keeping := .files settings.shelf }

/-- A process has read its settings, and the log knows the level that they name. -/
structure Begins (vars : Variables) (settings : Settings) (level : Nat) : Prop where
  read : Settings.ofVariables vars = .value settings
  known : Log.threshold settings.logLevel = .ok level

/-- The faults that no exit code stands for, with what brings them about. -/
inductive Escapes (vars : Variables) (store : Store) (command : Command) : Escape → Prop where
  /-- The settings name a level that the log does not know. -/
  | level {settings : Settings} {message : String} (read : Settings.ofVariables vars = .value settings)
    (unknown : Log.threshold settings.logLevel = .error message) : Escapes vars store command (.logLevel message)
  /-- A graph is refused that has to be without defects, and warnings are shown. -/
  | refused {settings : Settings} {level : Nat} {g : Graph} {d : Defect} (begins : Begins vars settings level)
    (shown : Log.shows level "" 30 = true) (demands : Demands (under settings store) command g) (fails : g.Fails d) :
    Escapes vars store command (.reservedName (Log.reservedText "message"))
  /-- The file under examination holds a number that cannot be read or weighed. -/
  | unexamined {settings : Settings} {level : Nat} {path : String} {fault : Escape}
    (begins : Begins vars settings level) (examines : command = .validateFile path) (unexamined : Unexamined store.folder path fault) :
    Escapes vars store command fault

section Run

variable {δ : Type} {setupOf : Settings → Setup δ} {vars : Variables} {agent : δ} {arguments : List String}
  {store : Store} {command : Command}

theorem run_of_begins {settings : Settings} {level : Nat} (reads : Command.read arguments = .ok command)
    (begins : Begins vars settings level) : run setupOf vars agent arguments store =
      (outcome level (perform (setupOf settings) command (.opened (under settings store) agent)).1,
        (perform (setupOf settings) command (.opened (under settings store) agent)).2.store) := by
  simp only [run, reads, begins.read, begins.known]
  rfl

/-- Where only errors are logged, only a file under examination keeps a command from an exit code. -/
theorem Begins.quiet {settings : Settings} {level : Nat} (begins : Begins vars settings level)
    (hushed : Log.shows level "" 30 = false) (examines : ∀ path, command ≠ .validateFile path) (fault : Escape) :
    ¬ Escapes vars store command fault := by
  rintro (⟨read, unknown⟩ | ⟨again, shown, -, -⟩ | ⟨-, examined, -⟩)
  · cases begins.read.symm.trans read
    cases begins.known.symm.trans unknown
  · cases begins.read.symm.trans again.read
    cases begins.known.symm.trans again.known
    cases hushed.symm.trans shown
  · exact examines _ examined

theorem Escapes.escape {fault : Escape} (reads : Command.read arguments = .ok command)
    (escapes : Escapes vars store command fault) : (run setupOf vars agent arguments store).1 = .escape fault := by
  cases escapes with
  | level read unknown => simp only [run, reads, read, unknown]
  | @refused settings level g d begins shown demands fails =>
    obtain ⟨b, refused, -⟩ := perform_refused (setupOf settings) (.opened (under settings store) agent) demands fails
    rw [run_of_begins reads begins, refused]
    exact if_pos shown
  | unexamined begins examines unexamined =>
    rw [run_of_begins reads begins, examines, perform_validateFile]
    exact unexamined.escape

theorem Unfit.untouched {settings : Settings} {level : Nat} (reads : Command.read arguments = .ok command)
    (begins : Begins vars settings level) (unfit : Unfit (under settings store) command) :
    (run setupOf vars agent arguments store).2.folder = store.folder ∧
      ((∀ fault, ¬ Escapes vars store command fault) →
        ∃ output notes, (run setupOf vars agent arguments store).1 = .exit exitGraph output notes) := by
  let a : Automation δ := .opened (under settings store) agent
  rw [run_of_begins reads begins]
  cases unfit with
  | @demanded g d demands fails =>
    obtain ⟨b, refused, same⟩ := perform_refused (setupOf settings) a demands fails
    rw [refused]
    refine ⟨same, fun quiet => ⟨_, [], if_neg fun shown => ?_⟩⟩
    exact quiet _ (.refused begins shown demands fails)
  | @examined g d examines fails =>
    obtain ⟨more, checked⟩ := fails
    obtain ⟨b, reported, same⟩ := perform_examined (setupOf settings) a examines checked
    rw [reported]
    exact ⟨same, fun _ => ⟨_, [], rfl⟩⟩
  | illegible named read illegible digits =>
    obtain ⟨⟨line, noted⟩, same⟩ := perform_illegible (setupOf settings) a named read illegible digits level
    rw [noted]
    exact ⟨same, fun _ => ⟨_, [line], rfl⟩⟩
  | @absent path fault examines absent =>
    have missed : validateFile store.folder path = noted exitGraph (fault.message path) := by
      rw [validateFile, show store.folder.read path = .error fault from absent]
    rw [examines, perform_validateFile]
    exact ⟨rfl, fun _ => ⟨_, [fault.message path], missed⟩⟩

theorem Unknown.untouched {settings : Settings} {level : Nat} (reads : Command.read arguments = .ok command)
    (begins : Begins vars settings level) (unknown : Unknown (under settings store) command) :
    (run setupOf vars agent arguments store).2.folder = store.folder ∧
      ∃ line, (run setupOf vars agent arguments store).1 = noted exitNotFound line := by
  obtain ⟨failure, ⟨b, missed, same⟩, coded⟩ :=
    perform_unknown (setupOf settings) (.opened (under settings store) agent) unknown
  rw [run_of_begins reads begins, missed]
  exact ⟨same, _, coded level⟩

variable (setupOf vars agent store)

theorem run_exits_or (reads : Command.read arguments = .ok command) (serves : ∀ host port, command ≠ .serve host port) :
    (run setupOf vars agent arguments store).1.Exits ∨ ∃ fault, Escapes vars store command fault := by
  rcases read : Settings.ofVariables vars with settings | _
  · rcases known : Log.threshold settings.logLevel with message | level
    · exact .inr ⟨_, .level read known⟩
    · have begins : Begins vars settings level := ⟨read, known⟩
      rw [run_of_begins reads begins]
      by_cases examines : ∃ path, command = .validateFile path
      · obtain ⟨path, rfl⟩ := examines
        refine (validateFile_cases store.folder path).imp (fun exits => exits) ?_
        exact fun ⟨fault, unexamined⟩ => ⟨fault, .unexamined begins rfl unexamined⟩
      · have yields := perform_yields (setupOf settings) (.opened (under settings store) agent) serves
          fun path same => examines ⟨path, same⟩
        rcases ended : perform (setupOf settings) command (.opened (under settings store) agent) with
          ⟨failure | ending, b⟩
        · by_cases blamed : Log.shows level "" 30 = true ∧ ∃ d, failure = .defect d
          · obtain ⟨shown, d, same⟩ := blamed
            obtain ⟨g, demands, fails⟩ := Act.Ensures.of_error yields ended d same
            exact .inr ⟨_, .refused begins shown demands fails⟩
          · refine .inl (exits_ofFailure fun d same => ?_)
            simpa [same] using blamed
        · exact .inl (Act.Ensures.of_ok yields ended)
  · refine .inl ?_
    simp only [run, reads, read]
    exact exits_noted (by decide) _

end Run

end TriggerFlow.CommandLine

namespace TriggerFlow.Trial

open CommandLine

/-- A directory of records with one draft in it, which has no nodes. -/
def draftStore : Store :=
  ⟨nine, 0, [("automation_state/workflows.json", "[\x7b\"id\": \"draft\", \"name\": \"\"\x7d]")], .memory .empty⟩

/-- Settings under which only errors are logged. -/
def errorsOnly : Variables := [("log_level", "error")]

/-- The settings that texts make, if they make some. -/
def settingsOf (vars : Variables) : Settings :=
  ((Settings.ofVariables vars).value?).getD ⟨"", "", 0, .ofIntRounded 0, 0, .ofIntRounded 0, "", ""⟩

theorem plain_begins : Begins [] (settingsOf []) 20 := ⟨rfl, by decide +kernel⟩

theorem errorsOnly_begins : Begins errorsOnly (settingsOf errorsOnly) 40 := ⟨rfl, by decide +kernel⟩

theorem ok_of_toOption {ε α : Type} {x : Except ε α} {a : α} (known : x.toOption = some a) : x = .ok a := by
  cases x <;> cases known
  rfl

theorem draft_demanded (settings : Settings) (found :
      (Store.workflow? "draft" (under settings draftStore)).1.toOption.join.map Workflow.graph = some ⟨[], [], 1⟩) :
    ∃ g d, Demands (under settings draftStore) (.enable "draft") g ∧ g.Fails d := by
  obtain ⟨w, known, bare⟩ := Option.map_eq_some_iff.mp found
  have stored : (Store.workflow? "draft" (under settings draftStore)).1 = .ok (some w) :=
    ok_of_toOption (Option.join_eq_some_iff.mp known)
  refine ⟨_, .triggerMissing, .enable stored, [], ?_⟩
  rw [bare]
  exact ok_of_toOption (by decide +kernel)

end TriggerFlow.Trial
