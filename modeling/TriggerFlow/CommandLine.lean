import TriggerFlow.Automation
import TriggerFlow.CommandLine.Command
import TriggerFlow.Log
import TriggerFlow.Settings

/-!
The command line. Every command works on the records in the directory that the settings name, and its
runs are driven to their end, or to where they wait, before it answers. Errors that belong to a command
have an exit code each.
-/

namespace TriggerFlow.CommandLine

/-- The name and version of the program. -/
def versionText : String := "workflow-automation 0.1.0"

/-- Exit codes. -/
def exitOther : Nat := 1
def exitConfig : Nat := 2
def exitGraph : Nat := 3
def exitFailed : Nat := 4
def exitNotFound : Nat := 5

/-- A fault that no exit code stands for. -/
inductive Escape where
  /-- The log is asked for a level that it does not know. -/
  | logLevel (message : String)
  /-- The log is asked to show something under a name of its own. -/
  | reservedName (message : String)
  | failure (failure : Failure)
  deriving DecidableEq, Repr

def Escape.message : Escape → String
  | .logLevel message => message
  | .reservedName message => message
  | .failure f => f.message

/-- How a command ends. -/
inductive Ending where
  /-- The arguments were of no use, or asked for a text. -/
  | usage (code : Nat) (output : String)
  /-- The command has an exit code, an output, and lines for the other stream. -/
  | exit (code : Nat) (output : String) (notes : List String)
  /-- A server is to be started. -/
  | serve (host : String) (port : Int)
  | escape (fault : Escape)
  deriving DecidableEq, Repr

/-- An ending that prints data. -/
def printed (code : Nat) (datum : Json) : Ending := .exit code datum.fileText []

/-- An ending that prints a line. -/
def said (line : String) : Ending := .exit 0 (line ++ "\n") []

/-- An ending with a line for the other stream. -/
def noted (code : Nat) (line : String) : Ending := .exit code "" [line]

/-- The defects of a graph, printed. -/
def reportDefects (found : List Defect) : Ending :=
  printed (if found.isEmpty then 0 else exitGraph)
    (.object [("valid", .bool found.isEmpty), ("errors", .list (found.map Defect.report))])

/-- What lists show of a run. -/
def summary (e : Execution) : Except TimeFault Members := do
  let duration ← e.duration?
  return [("id", .text e.id), ("workflow_id", .text e.workflowId), ("status", .text e.status.name),
    ("trigger_type", .text e.trigger.name), ("started_at", .text e.startedAt.text),
    ("completed_at", .ofText? (e.completedAt.map Instant.text)),
    ("duration_seconds", match duration with
      | some seconds => .float seconds
      | none => .null),
    ("current_node_id", .ofText? e.nodeId), ("error", .ofText? e.error)]

/-- Runs, printed. One that has failed shows in the code if `judged`. -/
def reportRuns {S : Type} (judged : Bool) (es : List Execution) : Act S Ending := do
  let shown ← Act.lift .time (es.mapM summary)
  let failed := judged && es.any fun e => e.status = .failed
  pure (printed (if failed then exitFailed else 0) (.list (shown.map .object)))

/-- The variables that assignments make. A value that is no JSON stands for itself. -/
def assigned : List String → Members → Except Failure Members
  | [], m => .ok m
  | pair :: rest, m =>
    let (name, value) := Argument.atEquals pair
    let key := Text.strip name
    match value with
    | none => .error (.assignment pair)
    | some raw =>
      if key = "" then .error (.assignment pair)
      else match Json.read raw with
        | .ok datum => assigned rest (Ordered.set m key datum)
        | .error (.malformed _) => assigned rest (Ordered.set m key (.text raw))
        | .error fault => .error (.json fault)

/-- Makes a draft of the document in a file, or puts its graph in the place of another. -/
def importFile (path : String) (name id : Option String) : Act Store Ending := do
  match (← Act.ask Store.folder).read path with
  | .error fault => Act.fail (.unavailable (fault.message path))
  | .ok text =>
    match Json.read text with
    | .error (.malformed _) => pure (noted exitGraph (path ++ " is not valid JSON"))
    | .error fault => Act.fail (.json fault)
    | .ok document => do
      let own := name.getD ""
      let w ← Store.importWorkflow document (some (if own = "" then fileStem path else own)) id
      pure (said ("Imported workflow " ++ w.id ++ " (" ++ w.name ++ "), version " ++ toString w.version))

/-- Writes the document of a workflow to a file, or prints it. -/
def exportTo (id : String) (output : Option String) : Act Store Ending := do
  let document ← Store.exportWorkflow id
  match output with
  | none => pure (printed 0 document)
  | some path =>
    match (← Act.ask Store.folder).write path document.fileText with
    | .error fault => Act.fail (.unavailable (fault.message path))
    | .ok folder => do
      Act.modify fun s => { s with folder }
      pure (said ("Exported workflow " ++ id ++ " to " ++ path))

/-- The templates of a category, printed. -/
def listTemplates (category : Option String) : Ending :=
  printed 0 (.list ((Catalogue.ofCategory category).map fun b =>
    .object [("id", .text b.id), ("name", .text b.name), ("category", .text b.category),
      ("description", .text b.description)]))

/-- The full record of a run, printed. -/
def showRun (e : Execution) : Except TimeFault Ending := do
  let members ← summary e
  return printed 0 (.object (members ++ [("variables", .object e.vars),
    ("logs", .list (e.log.map LogEntry.toRecord))]))

/-- Looks for defects in the graph of a file. -/
def validateFile (folder : Folder) (path : String) : Ending :=
  match folder.read path with
  | .error fault => noted exitGraph (fault.message path)
  | .ok text =>
    match Graph.ofDocumentText text with
    | .error (.notJson (.tooManyDigits n)) =>
      .escape (.failure (.document (.notJson (.tooManyDigits n))))
    | .error fault => noted exitGraph fault.message
    | .ok g =>
      match g.defects with
      | .ok found => reportDefects found
      | .error fault => .escape (.failure (.setting fault))

variable {δ : Type} (setup : Setup δ)

/-- Carries a command out. -/
def perform : Command → Act (Automation δ) Ending
  | .validateStored id => reportDefects <$> Automation.inStore (Store.workflowDefects id)
  | .validateFile path =>
    (validateFile · path) <$> Automation.inStore (Act.ask Store.folder)
  | .importFile path name id => Automation.inStore (importFile path name id)
  | .export id output => Automation.inStore (exportTo id output)
  | .enable id => do
    let w ← Automation.inStore (Store.enableWorkflow id)
    pure (said ("Enabled workflow " ++ w.id ++ " (" ++ w.name ++ ")"))
  | .disable id => do
    let w ← Automation.inStore (Store.disableWorkflow id)
    pure (said ("Disabled workflow " ++ w.id ++ " (" ++ w.name ++ ")"))
  | .run id assignments vars => do
    let own ← Act.lift (fun f => f) (assigned assignments [])
    let begun ← Automation.run setup id (Ordered.overlay vars own)
    let e ← Automation.inStore (Store.theExecution begun.id)
    let shown ← Act.lift .time (summary e)
    pure (printed (if e.status = .failed then exitFailed else 0) (.object shown))
  | .emit event payload => do
    let begun ← Automation.emit setup event payload
    let es ← Automation.inStore (begun.mapM fun e => Store.theExecution e.id)
    reportRuns true es
  | .tick context => do
    let t ← Automation.tick setup none context
    pure (printed 0 (.object [("started", .list (t.started.map fun e => .text e.id)),
      ("resumed", .list (t.resumed.map .text))]))
  | .list workflowId status => do
    let es ← Automation.inStore (Store.executions ⟨workflowId, status⟩)
    reportRuns false es
  | .show id => do
    let e ← Automation.inStore (Store.theExecution id)
    Act.lift .time (showRun e)
  | .templates category create name =>
    match create with
    | some id =>
      if id = "" then pure (listTemplates category)
      else do
        let w ← Automation.inStore (Store.createFromTemplate id name)
        pure (said ("Created workflow " ++ w.id ++ " (" ++ w.name ++ ") from " ++ id))
    | none => pure (listTemplates category)
  | .serve host port => pure (.serve host port)

/-- The ending that a failure makes. A defect is logged with a warning under a name that the log keeps
for itself, so it has an ending of its own only where warnings are not shown. -/
def ofFailure (logLevel : Nat) (failure : Failure) : Ending :=
  match failure with
  | .workflowMissing _ | .executionMissing _ | .templateMissing _ =>
    noted exitNotFound failure.message
  | .defect d =>
    if Log.shows logLevel "" 30 then .escape (.reservedName (Log.reservedText "message"))
    else printed exitGraph (.object [("errors", .list [d.report])])
  | .document _ => noted exitGraph failure.message
  | .workflowDisabled _ => noted exitConfig (failure.message ++ "; enable it first")
  | _ => .exit exitOther "" []

/-- What a process does with its arguments: it reads them and the settings, and then carries the command
out on the records that the settings name. -/
def run (setupOf : Settings → Setup δ) (vars : Variables) (agent : δ) (arguments : List String) :
    Store → Ending × Store := fun store =>
  match Command.read arguments with
  | .error .help => (.usage 0 "", store)
  | .error .version => (.usage 0 (versionText ++ "\n"), store)
  | .error .wrong => (.usage exitConfig "", store)
  | .ok command =>
    match Settings.ofVariables vars with
    | .issues _ => (noted exitConfig "Configuration error (check your .env):", store)
    | .value settings =>
      match Log.threshold settings.logLevel with
      | .error message => (.escape (.logLevel message), store)
      | .ok level =>
        let opened := Automation.opened { store with keeping := .files settings.shelf } agent
        let (result, after) := perform (setupOf settings) command opened
        (match result with
          | .ok ending => ending
          | .error failure => ofFailure level failure, after.desk.world.store)

/-- A process that only reports its actions. -/
def reporting (settings : Settings) : Setup Unit where
  dispatcher := Action.reporter Unit
  limits := ⟨some settings.timeout, settings.maxSteps⟩
  eager := true

end TriggerFlow.CommandLine
