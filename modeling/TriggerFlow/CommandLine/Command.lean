import TriggerFlow.CommandLine.Argument
import TriggerFlow.Execution
import TriggerFlow.Json.Reader
import TriggerFlow.Store.Folder

/-!
The commands, and how they are written.
-/

namespace TriggerFlow.CommandLine

/-- What a command line asks for. -/
inductive Command where
  | validateStored (id : String)
  | validateFile (path : String)
  | importFile (path : String) (name id : Option String)
  | export (id : String) (output : Option String)
  | enable (id : String)
  | disable (id : String)
  | run (id : String) (assignments : List String) (vars : Members)
  | emit (event : String) (payload : Members)
  | tick (context : Members)
  | list (workflowId : Option String) (status : Option Status)
  | show (id : String)
  | templates (category create name : Option String)
  | serve (host : String) (port : Int)
  deriving DecidableEq, Repr

namespace Command

/-- The paths that a command reads from or writes to, the records apart. -/
def paths : Command → List String
  | .validateFile path => [path]
  | .importFile path _ _ => [path]
  | .export _ (some path) => [path]
  | _ => []

/-- The object that an argument writes. -/
def object? (text : String) : Option Members := (Json.read? text).bind Json.object?

/-- Whether a value is of use to an option. -/
def accepts (name value : String) : Bool :=
  if ["--vars-json", "--payload", "--context"].contains name then (object? value).isSome
  else if name = "--status" then (Status.named? value).isSome
  else if name = "--port" then (Decimal.readLooseInt? value).isSome
  else true

/-- The form of a command that takes an operand and some options. -/
def withOperand (options : List String) : Form := ⟨options, true, false, accepts⟩

/-- The form of a command that takes options alone. -/
def withOptions (options : List String) : Form := ⟨options, false, false, accepts⟩

/-- The form of the command with a name. -/
def form? (name : String) : Option Form :=
  match name with
  | "validate" => some ⟨["--workflow-id", "--file"], false, true, accepts⟩
  | "import" => some (withOperand ["--name", "--workflow-id"])
  | "export" => some (withOperand ["--output"])
  | "enable" | "disable" | "show-execution" => some (withOperand [])
  | "run" => some (withOperand ["--var", "--vars-json"])
  | "emit-event" => some (withOperand ["--payload"])
  | "tick" => some (withOptions ["--context"])
  | "executions" => some (withOptions ["--workflow-id", "--status"])
  | "templates" => some (withOptions ["--category", "--create", "--name"])
  | "serve" => some (withOptions ["--host", "--port"])
  | _ => none

/-- The command that a name and its arguments make. -/
def ofGiven (name : String) (g : Given) : Command :=
  let operand := g.operand.getD ""
  let object (option : String) : Members := ((g.value? option).bind object?).getD []
  match name with
  | "validate" =>
    match g.value? "--file" with
    | some path => .validateFile (plainPath path)
    | none => .validateStored ((g.value? "--workflow-id").getD "")
  | "import" => .importFile (plainPath operand) (g.value? "--name") (g.value? "--workflow-id")
  | "export" => .export operand ((g.value? "--output").map plainPath)
  | "enable" => .enable operand
  | "disable" => .disable operand
  | "run" => .run operand (g.all "--var") (object "--vars-json")
  | "emit-event" => .emit operand (object "--payload")
  | "tick" => .tick (object "--context")
  | "executions" => .list (g.value? "--workflow-id") ((g.value? "--status").bind Status.named?)
  | "templates" => .templates (g.value? "--category") (g.value? "--create") (g.value? "--name")
  | "serve" =>
    .serve ((g.value? "--host").getD "127.0.0.1")
      (((g.value? "--port").bind Decimal.readLooseInt?).getD 8000)
  | _ => .show operand

/-- Reads a command line. -/
def read (texts : List String) : Except Usage Command := do
  let _ ← Argument.ofTexts frontNames texts
  let (name, rest, stray) ← commandWord false texts
  match form? name with
  | none => .error .wrong
  | some form => do
    let g ← form.read rest
    if stray || g.stray then .error .wrong else .ok (ofGiven name g)

end Command

end TriggerFlow.CommandLine
