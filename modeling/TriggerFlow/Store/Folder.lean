import TriggerFlow.Execution.Record
import TriggerFlow.Json.Printer
import TriggerFlow.Trigger.Memory

/-!
Records kept as files: one list of all workflows, one file for each execution, and one object with the
memory of all triggers. A workflow record that cannot be read is skipped, and is written back as it was
found.
-/

namespace TriggerFlow

/-- Files by path, in the order in which they were made. -/
abbrev Folder := Ordered String

/-- A path without empty steps and without steps that stay in place. A single dot is the directory at
hand. Two slashes at the front stay, and more count as one. -/
def plainPath (path : String) : String :=
  let chars := path.toList
  let root := match chars with
    | '/' :: '/' :: '/' :: _ => "/"
    | '/' :: '/' :: _ => "//"
    | '/' :: _ => "/"
    | _ => ""
  let steps := (Text.cut '/' chars).filter fun step => !step.isEmpty && step ≠ ['.']
  let plain := root ++ "/".intercalate (steps.map String.ofList)
  if plain = "" then "." else plain

/-- A path inside a directory. -/
def inDirectory (directory name : String) : String :=
  if directory = "." then name
  else if directory.endsWith "/" then directory ++ name
  else directory ++ "/" ++ name

/-- Why there is no file at a path. -/
inductive FileFault where
  | missing
  | isDirectory
  | notInDirectory
  deriving DecidableEq, Repr

/-- The text of a fault, for a path. -/
def FileFault.message (path : String) : FileFault → String
  | .missing => "[Errno 2] No such file or directory: " ++ Text.quoted path
  | .isDirectory => "[Errno 21] Is a directory: " ++ Text.quoted path
  | .notInDirectory => "[Errno 20] Not a directory: " ++ Text.quoted path

namespace Folder

/-- Whether a path is a directory: the one at hand, or one that holds a file. -/
def isDirectory (folder : Folder) (path : String) : Bool :=
  path = "." || folder.keys.any fun key => key.startsWith (path ++ "/")

/-- Whether a path leads through a file. -/
def leadsThroughFile (folder : Folder) (path : String) : Bool :=
  folder.keys.any fun key => path.startsWith (key ++ "/")

/-- The text of a file. -/
def read (folder : Folder) (path : String) : Except FileFault String :=
  match Ordered.get? folder path with
  | some text => .ok text
  | none =>
    .error (if isDirectory folder path then .isDirectory
      else if leadsThroughFile folder path then .notInDirectory
      else .missing)

/-- The directory that a path lies in. -/
def parent (path : String) : String :=
  match Text.cutLast? '/' path.toList with
  | some (front, _) => if front.isEmpty then "/" else String.ofList front
  | none => "."

/-- The folder after a file has been written, which needs a directory to lie in. -/
def write (folder : Folder) (path text : String) : Except FileFault Folder :=
  if isDirectory folder path then .error .isDirectory
  else if isDirectory folder (parent path) then .ok (Ordered.set folder path text)
  else .error (if leadsThroughFile folder path then .notInDirectory else .missing)

end Folder

/-- The name of a file without its last ending. A name that only begins or ends with a dot has no
ending. -/
def fileStem (path : String) : String :=
  let name := match Text.cutLast? '/' path.toList with
    | some (_, name) => name
    | none => path.toList
  match Text.cutLast? '.' name with
  | some (front, ending) =>
    if front.isEmpty || ending.isEmpty then String.ofList name else String.ofList front
  | none => String.ofList name

/-- The directory that records are kept in. -/
structure Shelf where
  root : String
  deriving DecidableEq, Repr

namespace Shelf

def workflows (s : Shelf) : String := inDirectory s.root "workflows.json"
def executions (s : Shelf) : String := inDirectory s.root "executions"
def triggers (s : Shelf) : String := inDirectory s.root "trigger_state.json"

/-- The file of an execution. -/
def execution (s : Shelf) (id : String) : String := inDirectory s.executions (id ++ ".json")

/-- The names of the execution files without their directory, in order. -/
def executionFiles (s : Shelf) (folder : Folder) : List String :=
  let front := inDirectory s.executions ""
  let names := folder.keys.filterMap fun path =>
    if path.startsWith front then
      let name := (path.drop front.length).toString
      if name.endsWith ".json" && !name.toList.contains '/' then some name else none
    else none
  names.mergeSort fun a b => !decide (b < a)

end Shelf

/-- The items of the file of workflows; none if the file is missing or holds no list. An integer that is
too long to be read is a fault. -/
def workflowItems (text : Option String) : Except Json.Fault (List Json) :=
  match text with
  | none => .ok []
  | some text =>
    match Json.read text with
    | .ok (.list items) => .ok items
    | .ok _ => .ok []
    | .error (.malformed _) => .ok []
    | .error fault => .error fault

/-- The text of the file of workflows, with the unreadable records at its end. -/
def workflowsText (workflows : List Workflow) (unreadable : List Json) : String :=
  (Json.list (workflows.map Workflow.toRecord ++ unreadable)).fileText

/-- The memory of triggers in a text. Anything that cannot be read makes all of it count as empty. -/
def triggersOfText (text : Option String) : Ordered TriggerMemory :=
  match text.bind Json.read? with
  | some (.object m) =>
    (m.mapM fun pair => (TriggerMemory.ofRecord pair.2).value?.map (pair.1, ·)).getD []
  | _ => []

def triggersText (triggers : Ordered TriggerMemory) : String :=
  (Json.object (triggers.map fun pair => (pair.1, pair.2.toRecord))).fileText

end TriggerFlow
