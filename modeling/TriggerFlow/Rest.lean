import TriggerFlow.Automation
import TriggerFlow.Rest.Body
import TriggerFlow.Rest.Request
import TriggerFlow.Settings

/-!
The REST interface: every operation of the running system behind a method and a path. Failures that
belong to a request have a status each; any other failure is an error of the server.
-/

namespace TriggerFlow.Rest

/-- What a response holds. -/
inductive Content where
  | nothing
  | data (datum : Json)
  | plain (text : String)
  /-- What is wrong with the request. -/
  | issues (found : List Issue)
  deriving DecidableEq, Repr

structure Response where
  status : Nat
  content : Content
  deriving DecidableEq, Repr

namespace Response

def data (status : Nat) (datum : Json) : Response := ⟨status, .data (writable datum)⟩

/-- A response that explains itself. -/
def detail (status : Nat) (datum : Json) : Response := ⟨status, .data (.object [("detail", datum)])⟩

def ofDefects (found : List Defect) : Response :=
  detail 422 (.object [("errors", .list (found.map Defect.report))])

/-- A record in a body may be anything with members, and what is none is reported as such. -/
def ofIssues (front : List String) (found : List Issue) : Response :=
  ⟨422, .issues (found.map fun issue =>
    ⟨front ++ issue.place,
      if issue.complaint = .recordExpected then .taggedExpected else issue.complaint⟩)⟩

/-- The response to a failure that nobody expects. -/
def serverError : Response := ⟨500, .plain "Internal Server Error"⟩

def ofFailure (failure : Failure) : Response :=
  match failure with
  | .workflowMissing _ | .executionMissing _ | .templateMissing _ => detail 404 (.text failure.message)
  | .workflowDisabled _ => detail 409 (.text failure.message)
  | .defect d => ofDefects [d]
  | .document _ => detail 400 (.text failure.message)
  | _ => serverError

def ofUnrouted : Unrouted → Response
  | .unknownPath => detail 404 (.text "Not Found")
  | .otherMethod => detail 405 (.text "Method Not Allowed")

end Response

/-- The datum in a body, if there is a body. -/
def bodyDatum (r : Request) : Except Response (Option Json) :=
  if r.body = "" then .ok none
  else match Json.read r.body with
    | .ok datum => .ok (some datum)
    | .error (.malformed position) =>
      .error (.ofIssues ["body", toString position] [⟨[], .notJson⟩])
    | .error _ => .error (.detail 400 (.text "There was an error parsing the body"))

/-- Reads a body that must be there. -/
def requiredBody {α : Type} (r : Request) (read : Json → Reading α) : Except Response α := do
  match (← bodyDatum r) with
  | none => .error (.ofIssues ["body"] [⟨[], .missing⟩])
  | some datum =>
    match read datum with
    | .value a => .ok a
    | .issues found => .error (.ofIssues ["body"] found)

/-- Reads a body that may be missing or null. -/
def optionalBody {α : Type} (r : Request) (fallback : α) (read : Json → Reading α) :
    Except Response α := do
  match (← bodyDatum r) with
  | none | some .null => .ok fallback
  | some datum =>
    match read datum with
    | .value a => .ok a
    | .issues found => .error (.ofIssues ["body"] found)

/-- The status that a query selects. -/
def queryStatus (r : Request) : Except Response (Option Status) :=
  match r.query.get? "status" with
  | none => .ok none
  | some name =>
    match Status.named? name with
    | some status => .ok (some status)
    | none => .error (.ofIssues ["query", "status"] [⟨[], .notAChoice⟩])

variable {δ : Type} (setup : Setup δ)

/-- Goes on with what a request brings, or answers why it cannot. -/
def given {α : Type} (brought : Except Response α) (f : α → Act (Automation δ) Response) :
    Act (Automation δ) Response :=
  match brought with
  | .ok a => f a
  | .error response => pure response

/-- A response with a workflow. -/
def withWorkflow (status : Nat) (x : Act Store Workflow) : Act (Automation δ) Response := do
  let w ← Automation.inStore x
  pure (.data status w.toRecord)

/-- A response with runs. -/
def withRuns (status : Nat) (es : List Execution) : Act (Automation δ) Response := do
  let shown ← Act.lift .time (es.mapM runRecord)
  pure (.data status (.list shown))

/-- A response with one run. -/
def withRun (status : Nat) (e : Execution) : Act (Automation δ) Response := do
  let shown ← Act.lift .time (runRecord e)
  pure (.data status shown)

/-- Enables a workflow; a refusal names all defects. -/
def enable (id : String) : Act (Automation δ) Response :=
  (withWorkflow 200 (Store.enableWorkflow id)).recover fun failure =>
    match failure with
    | .defect _ => Response.ofDefects <$> Automation.inStore (Store.workflowDefects id)
    | failure => Act.fail failure

/-- Carries an operation out. `ticking` tells whether the scheduler runs. -/
def perform (ticking : Bool) (r : Request) : Operation → Act (Automation δ) Response
  | .health =>
    pure (.data 200 (.object [("status", .text "ok"), ("scheduler", .bool ticking)]))
  | .listWorkflows => do
    let found ← Automation.inStore Store.workflows
    pure (.data 200 (.list (found.map Workflow.toRecord)))
  | .createWorkflow => given (requiredBody r Creation.ofRecord) fun c =>
      withWorkflow 201 (do
        let fresh ← Store.draw
        Store.createWorkflow (c.workflow fresh))
  | .importWorkflow => given (requiredBody r Import.ofRecord) fun i =>
      withWorkflow 201 (Store.importWorkflow (.object i.document) i.name i.id)
  | .getWorkflow id => withWorkflow 200 (Store.theWorkflow id)
  | .updateWorkflow id => given (requiredBody r editOfRecord) fun edit =>
      withWorkflow 200 (Store.reviseWorkflow id (.value edit))
  | .deleteWorkflow id => do
    Automation.inStore (Store.removeWorkflow id)
    pure ⟨204, .nothing⟩
  | .enableWorkflow id => enable id
  | .disableWorkflow id => withWorkflow 200 (Store.disableWorkflow id)
  | .validateWorkflow id => do
    let found ← Automation.inStore (Store.workflowDefects id)
    pure (.data 200 (.object [("valid", .bool found.isEmpty),
      ("errors", .list (found.map Defect.report))]))
  | .exportWorkflow id => do
    let document ← Automation.inStore (Store.exportWorkflow id)
    pure (.data 200 document)
  | .runWorkflow id => given (optionalBody r [] variablesOfRecord) fun vars => do
      let e ← Automation.run setup id vars
      withRun 202 e
  | .runsOfWorkflow id => given (queryStatus r) fun status => do
      let es ← Automation.inStore (Store.executions ⟨some id, status⟩)
      withRuns 200 es
  | .listTemplates =>
    pure (.data 200 (.list ((Catalogue.ofCategory (r.query.get? "category")).map blueprintRecord)))
  | .instantiate id => given (optionalBody r none nameOfRecord) fun name =>
      withWorkflow 201 (Store.createFromTemplate id name)
  | .emit event => given (optionalBody r [] payloadOfRecord) fun payload => do
      let es ← Automation.emit setup event payload
      withRuns 202 es
  | .tick => given (optionalBody r ⟨none, []⟩ Beat.ofRecord) fun beat => do
      let t ← Automation.tick setup beat.time beat.context
      pure (.data 200 (.object [("started", .list (t.started.map fun e => .text e.id)),
        ("resumed", .list (t.resumed.map .text))]))
  | .getRun id => do
    let e ← Automation.inStore (Store.theExecution id)
    let shown ← Act.lift .time (runDetail e)
    pure (.data 200 shown)
  | .cancelRun id => do
    let e ← Automation.cancel setup id
    withRun 200 e

/-- The response to a request. Whatever happens there is one. -/
def respond (ticking : Bool) (r : Request) (a : Automation δ) : Response × Automation δ :=
  match operation r with
  | .error unrouted => (.ofUnrouted unrouted, a)
  | .ok operation =>
    match perform setup ticking r operation a with
    | (.ok response, a) => (response, a)
    | (.error failure, a) => (.ofFailure failure, a)

end TriggerFlow.Rest
