import Std.Time.DateTime.Timestamp
import TriggerFlow.CommandLine
import TriggerFlow.Rest

/-!
The program. It takes the files that a command may touch into memory, lets the command line answer, and
writes back what has changed. A server answers the requests that stand on the lines of its input.
-/

namespace TriggerFlow.Program

open CommandLine

/-- The names of all settings. -/
def settingNames : List String :=
  ["LOG_LEVEL", "AUTOMATION_STATE_PATH", "AUTOMATION_WORKER_COUNT",
    "AUTOMATION_ACTION_TIMEOUT_SECONDS", "AUTOMATION_MAX_STEPS",
    "AUTOMATION_SCHEDULER_INTERVAL_SECONDS", "AUTOMATION_ACTION_WEBHOOK_URL",
    "AUTOMATION_ACTION_WEBHOOK_TOKEN", "AUTOMATION_SCHEDULER_ENABLED", "AUTOMATION_CORS_ORIGINS"]

/-- The settings in the surroundings. -/
def surroundings : IO (Ordered String) :=
  settingNames.filterMapM fun name => do return (← IO.getEnv name).map (name, ·)

/-- What an action gives, if it succeeds. -/
def attempt {α : Type} (x : IO α) : IO (Option α) := do return (← x.toBaseIO).toOption

def now : IO Instant := do
  let time ← Std.Time.Timestamp.now
  return ⟨Instant.epoch + time.toNanosecondsSinceUnixEpoch.val / 1000, some 0⟩

/-- A count of identifiers that nobody else counts from. -/
def freshCount : IO Nat := do
  let bytes ← IO.getRandomBytes 15
  return bytes.foldl (fun n b => 256 * n + b.toNat) 0

/-- The names in a directory. -/
def namesIn (path : String) : IO (List String) := do
  let found ← attempt do (← IO.FS.realPath path).readDir
  return (found.getD #[]).toList.map fun entry => entry.fileName

/-- Adds what is found at a path. A directory is shown by a name with a slash at its end. -/
def take (folder : Folder) (path : String) : IO Folder := do
  match (← attempt (IO.FS.readFile path)) with
  | some text => return Ordered.set folder path text
  | none =>
    let isDirectory ← attempt do (← IO.FS.realPath path).isDir
    return if isDirectory.getD false then Ordered.set folder (path ++ "/") "" else folder

/-- The files of a shelf, and what is found at other paths. -/
def gather (shelf : Shelf) (paths : List String) : IO Folder := do
  let names ← namesIn shelf.executions
  let kept := shelf.workflows :: shelf.triggers :: names.map (inDirectory shelf.executions)
  (kept ++ paths ++ paths.map Folder.parent).foldlM take []

/-- Writes what has changed. -/
def keep (before after : Folder) : IO Unit :=
  after.forM fun (path, text) => do
    if before.get? path ≠ some text then
      IO.FS.createDirAll (Folder.parent path)
      IO.FS.writeFile path text

/-- The text of a response: its status, and what it holds. -/
def responseLine (r : Rest.Response) : String :=
  toString r.status ++ match r.content with
    | .nothing => ""
    | .data datum => " " ++ datum.print
    | .plain text => " " ++ text
    | .issues found => " " ++ (Json.list (found.map fun issue => .list (issue.place.map .text))).print

/-- The request on a line: a method, an address and perhaps a body, with blanks between them. -/
def requestOf (line : String) : Rest.Request :=
  let (method, rest) := (Text.cutFirst? ' ' (Text.trim line.toList)).getD (line.toList, [])
  let (address, body) := (Text.cutFirst? ' ' rest).getD (rest, [])
  .ofAddress (String.ofList method) (String.ofList address) (String.ofList body)

/-- Answers one request after the other. -/
partial def serve (setup : Setup Unit) (input output : IO.FS.Stream) (a : Automation Unit) : IO Unit := do
  let line ← input.getLine
  if line.isEmpty then return
  let time ← now
  let (_, a) := Automation.inStore (Act.modify fun s => { s with now := time }) a
  let (response, next) := Rest.respond setup false (requestOf line) a
  keep a.desk.world.store.folder next.desk.world.store.folder
  output.putStrLn (responseLine response)
  output.flush
  serve setup input output next

/-- Carries out the command of a list of arguments and gives its exit code. -/
def run (arguments : List String) : IO UInt32 := do
  let vars := Variables.gather (← surroundings) (← attempt (IO.FS.readFile ".env"))
  let paths := match Command.read arguments with
    | .ok command => command.paths
    | .error _ => []
  let settings? := (Settings.ofVariables vars).value?
  let folder ← match settings? with
    | some settings => gather settings.shelf paths
    | none => pure []
  let store : Store := ⟨← now, ← freshCount, folder, .memory .empty⟩
  let (ending, after) := CommandLine.run reporting vars () arguments store
  keep folder after.folder
  match ending, settings? with
  | .usage code output, _ => do
    IO.print output
    return code.toUInt32
  | .exit code output notes, _ => do
    IO.print output
    notes.forM IO.eprintln
    return code.toUInt32
  | .serve _ _, some settings => do
    serve (reporting settings) (← IO.getStdin) (← IO.getStdout)
      (.opened { store with keeping := .files settings.shelf } ())
    return 0
  | .serve _ _, none => return 0
  | .escape fault, _ => do
    IO.eprintln fault.message
    return 1

end TriggerFlow.Program

def main (arguments : List String) : IO UInt32 := TriggerFlow.Program.run arguments
