import TriggerFlow.Ordered
import TriggerFlow.Text.Trim

/-!
Requests, and the operations that they name by method and path.
-/

/-!
Texts in which a percent sign and two hexadecimal digits stand for a byte. The bytes are read as UTF-8;
where they are none, every byte beyond ASCII is read as the replacement character.
-/

namespace TriggerFlow.Text

/-- The bytes that a text stands for. -/
def percentBytes : List Char → List UInt8
  | '%' :: a :: b :: rest =>
    match hexDigit? a, hexDigit? b with
    | some high, some low => UInt8.ofNat (high * 16 + low) :: percentBytes rest
    | _, _ => '%'.toString.toUTF8.toList ++ percentBytes (a :: b :: rest)
  | c :: rest => c.toString.toUTF8.toList ++ percentBytes rest
  | [] => []

/-- The text that bytes write. -/
def ofBytes (bytes : List UInt8) : String :=
  match String.fromUTF8? ⟨bytes.toArray⟩ with
  | some text => text
  | none => String.ofList (bytes.map fun b =>
      if b.toNat < 0x80 then Char.ofNat b.toNat else Char.ofNat 0xfffd)

/-- The text with its bytes in the place of their numbers. -/
def percentDecoded (text : List Char) : String := ofBytes (percentBytes text)

end TriggerFlow.Text

namespace TriggerFlow.Rest

/-- A request: a method, the steps of a path, named texts behind a question mark, and a body. -/
structure Request where
  method : String
  path : List String
  query : Ordered String
  body : String
  deriving DecidableEq, Repr

/-- The named texts of a query. A later one counts before an earlier one of the same name, and plus signs
stand for blanks. -/
def queryOf (text : List Char) : Ordered String :=
  let decoded (part : List Char) : String :=
    Text.percentDecoded (part.map fun c => if c = '+' then ' ' else c)
  let pair (part : List Char) : String × String :=
    match Text.cutFirst? '=' part with
    | some (name, value) => (decoded name, decoded value)
    | none => (decoded part, "")
  Ordered.ofPairs (((Text.cut '&' text).filter fun part => !part.isEmpty).map pair)

/-- The steps of a path, without the blank one in front of its first slash. -/
def stepsOf (path : String) : List String := ((Text.cut '/' path.toList).drop 1).map String.ofList

/-- A request for an address; what follows a hash in it is nobody's business. -/
def Request.ofAddress (method address body : String) : Request :=
  let address := address.toList.takeWhile (· ≠ '#')
  let (path, query) := (Text.cutFirst? '?' address).getD (address, [])
  ⟨Text.upperAscii method, stepsOf (Text.percentDecoded path), queryOf query, body⟩

/-- What a request asks for. -/
inductive Operation where
  | health
  | listWorkflows
  | createWorkflow
  | importWorkflow
  | getWorkflow (id : String)
  | updateWorkflow (id : String)
  | deleteWorkflow (id : String)
  | enableWorkflow (id : String)
  | disableWorkflow (id : String)
  | validateWorkflow (id : String)
  | exportWorkflow (id : String)
  | runWorkflow (id : String)
  | runsOfWorkflow (id : String)
  | listTemplates
  | instantiate (id : String)
  | emit (event : String)
  | tick
  | getRun (id : String)
  | cancelRun (id : String)
  deriving DecidableEq, Repr

/-- What can be done with one workflow. -/
def ofWorkflow (id : String) : List String → List (String × Operation)
  | [] => (if id = "import" then [("POST", .importWorkflow)] else []) ++
      [("GET", .getWorkflow id), ("PUT", .updateWorkflow id), ("DELETE", .deleteWorkflow id)]
  | ["enable"] => [("POST", .enableWorkflow id)]
  | ["disable"] => [("POST", .disableWorkflow id)]
  | ["validate"] => [("POST", .validateWorkflow id)]
  | ["export"] => [("GET", .exportWorkflow id)]
  | ["run"] => [("POST", .runWorkflow id)]
  | ["executions"] => [("GET", .runsOfWorkflow id)]
  | _ => []

/-- The operations at a path, by method. A name in a path is never empty. -/
def offered : List String → List (String × Operation)
  | ["api", "health"] => [("GET", .health)]
  | ["api", "workflows"] => [("GET", .listWorkflows), ("POST", .createWorkflow)]
  | "api" :: "workflows" :: id :: rest => if id = "" then [] else ofWorkflow id rest
  | ["api", "templates"] => [("GET", .listTemplates)]
  | ["api", "templates", id, "instantiate"] => if id = "" then [] else [("POST", .instantiate id)]
  | ["api", "events", event] => if event = "" then [] else [("POST", .emit event)]
  | ["api", "scheduler", "tick"] => [("POST", .tick)]
  | ["api", "executions", id] => if id = "" then [] else [("GET", .getRun id)]
  | ["api", "executions", id, "cancel"] => if id = "" then [] else [("POST", .cancelRun id)]
  | _ => []

/-- Why a request names no operation. -/
inductive Unrouted where
  | unknownPath
  | otherMethod
  deriving DecidableEq, Repr

/-- The path that is looked up: slashes at the end do not count where nothing else is there. -/
def settledPath (path : List String) : List String :=
  if (offered path).isEmpty then (path.reverse.dropWhile (· = "")).reverse else path

/-- The operation that a request names. -/
def operation (r : Request) : Except Unrouted Operation :=
  match offered (settledPath r.path) with
  | [] => .error .unknownPath
  | found =>
    match Ordered.get? found r.method with
    | some operation => .ok operation
    | none => .error .otherMethod

end TriggerFlow.Rest
