import TriggerFlow.Failure
import TriggerFlow.Workflow

/-!
The catalogue of ready-made workflows. Each is a whole graph with the variables it reads, and becomes a
disabled draft when somebody takes it.
-/

namespace TriggerFlow

/-- A ready-made workflow. -/
structure Blueprint where
  id : String
  name : String
  description : String
  category : String
  graph : Graph
  vars : Members
  deriving DecidableEq, Repr

namespace Blueprint

/-- The draft of a template. A name of its own takes the place of the template's unless it is empty, and
a description in any case. -/
def draft (b : Blueprint) (fresh : Fresh) (name description : Option String) : Workflow :=
  { Workflow.draft fresh (match name with
      | some own => if own = "" then b.name else own
      | none => b.name) b.graph.nodes b.graph.edges with
    description := description.getD b.description
    category := b.category
    templateId := some b.id
    vars := b.vars }

/-- A place on the canvas. -/
def place (x y : Nat) : Option Position :=
  some ⟨.ofIntRounded (x : Int), .ofIntRounded (y : Int)⟩

/-- The placeholder of a path in a text. -/
def slot (path : String) : String := "\x7b\x7b" ++ path ++ "\x7d\x7d"

def begin (label : String) (kind : TriggerKind) (config : Members) : Node :=
  ⟨"1", label, place 100 100, .trigger ⟨kind, config⟩⟩

def act (id label : String) (kind : ActionKind) (x y : Nat) (config : Members) : Node :=
  ⟨id, label, place x y, .action ⟨kind, config, false, none⟩⟩

def ask (id label expression : String) (x : Nat) : Node :=
  ⟨id, label, place x 100, .condition expression⟩

def done (id : String) (x : Nat) : Node := ⟨id, "End", place x 100, .finish⟩

/-- An edge, named for its ends. -/
def edge (source target : String) : Edge := ⟨"e" ++ source ++ "-" ++ target, source, target, none⟩

/-- The two ways out of a condition. -/
def fork (source yes no : String) : List Edge :=
  [{ edge source yes with branch := some .yes }, { edge source no with branch := some .no }]

/-- The edges between neighbours. -/
def chain : List String → List Edge
  | first :: second :: rest => edge first second :: chain (second :: rest)
  | _ => []

end Blueprint

namespace Catalogue

open Blueprint

def clientOnboarding : Blueprint where
  id := "new-client-onboarding"
  name := "New Client Onboarding"
  description := "Automated workflow for onboarding new clients"
  category := "Client Management"
  graph := ⟨[
    begin "New Client Created" .event [("event", .text "client.created")],
    act "2" "Send Welcome Email" .sendEmail 300 100 [("template", .text "welcome-client"),
      ("to", .text (slot "client.email")),
      ("subject", .text ("Welcome aboard, " ++ slot "client.name" ++ "!"))],
    act "3" "Create Onboarding Task" .createTask 500 100 [
      ("title", .text ("Complete onboarding for " ++ slot "client.name")),
      ("assignTo", .text (slot "accountManager.id")), ("dueInDays", .int 7)],
    act "4" "Schedule Kickoff Meeting" .scheduleMeeting 700 100 [
      ("title", .text ("Kickoff Meeting - " ++ slot "client.name")), ("duration", .int 60),
      ("attendees", .list [.text (slot "client.email"), .text (slot "accountManager.email")])],
    act "5" "Notify Team" .sendNotification 900 100 [("channel", .text "new-clients"),
      ("message", .text ("New client " ++ slot "client.name" ++ " has been onboarded!"))],
    done "6" 1100], chain ["1", "2", "3", "4", "5", "6"], 1⟩
  vars := [("client", .object []), ("accountManager", .object [])]

def projectKickoff : Blueprint where
  id := "project-kickoff"
  name := "Project Kickoff"
  description := "Set up a new project and route large budgets to an executive review"
  category := "Project Management"
  graph := ⟨[
    begin "New Project Created" .event [("event", .text "project.created")],
    act "2" "Create Project Structure" .createDocument 300 100 [
      ("template", .text "project-structure"), ("folder", .text (slot "project.id"))],
    act "3" "Assign Team" .assignToUser 500 100 [("users", .text (slot "project.team")),
      ("role", .text "team-member")],
    ask "4" "Check Budget" "project.budget > 10000" 700,
    act "5" "Schedule Executive Review" .scheduleMeeting 900 50 [
      ("title", .text ("Executive Review - " ++ slot "project.name")),
      ("attendees", .text (slot "executives"))],
    act "6" "Standard Kickoff" .createTask 900 150 [
      ("tasks", .list [.text "Design Review", .text "Technical Setup", .text "Client Meeting"])],
    done "7" 1100],
    chain ["1", "2", "3", "4"] ++ fork "4" "5" "6" ++ [edge "5" "7", edge "6" "7"], 1⟩
  vars := [("project", .object []), ("executives", .list [])]

def quoteFollowUp : Blueprint where
  id := "quote-followup"
  name := "Quote Follow-up"
  description := "Automated follow-up for sent quotes"
  category := "Sales"
  graph := ⟨[
    begin "Quote Sent" .event [("event", .text "quote.sent")],
    act "2" "Wait 3 Days" .delay 300 100 [("delay", .int 259200000)],
    ask "3" "Quote Viewed?" "quote.viewed === true" 500,
    act "4" "Send Follow-up Email" .sendEmail 700 50 [("template", .text "quote-followup-viewed"),
      ("to", .text (slot "client.email"))],
    act "5" "Send Reminder Email" .sendEmail 700 150 [("template", .text "quote-reminder"),
      ("to", .text (slot "client.email"))],
    done "6" 900],
    chain ["1", "2", "3"] ++ fork "3" "4" "5" ++ [edge "4" "6", edge "5" "6"], 1⟩
  vars := [("quote", .object []), ("client", .object [])]

def taskEscalation : Blueprint where
  id := "task-escalation"
  name := "Task Escalation"
  description := "Escalate overdue tasks to managers"
  category := "Task Management"
  graph := ⟨[
    begin "Every Morning" .schedule [("schedule", .text "0 9 * * *")],
    act "2" "Check Overdue Tasks" .waitCondition 300 100 [
      ("expression", .text "tasks.overdue.count > 0"), ("timeout", .int 3600000)],
    act "3" "Notify Assignees" .sendNotification 500 100 [("to", .text (slot "task.assignee.id")),
      ("message", .text ("Task \"" ++ slot "task.title" ++ "\" is overdue"))],
    ask "4" "Overdue > 3 days?" "task.daysOverdue > 3" 700,
    act "5" "Escalate to Manager" .sendEmail 900 50 [("to", .text (slot "task.assignee.manager")),
      ("subject", .text "Urgent: Task Escalation Required"), ("template", .text "task-escalation")],
    done "6" 1100],
    chain ["1", "2", "3", "4"] ++ fork "4" "5" "6" ++ [edge "5" "6"], 1⟩
  vars := [("tasks", .object []), ("task", .object [])]

def monthlyReporting : Blueprint where
  id := "monthly-reporting"
  name := "Monthly Reporting"
  description := "Generate and distribute monthly reports"
  category := "Reporting"
  graph := ⟨[
    begin "Monthly Schedule" .schedule [("schedule", .text "0 0 1 * *")],
    act "2" "Generate Reports" .createDocument 300 100 [
      ("templates", .list [.text "project-summary", .text "financial-report",
        .text "team-performance"]), ("period", .text (slot "lastMonth.name"))],
    act "3" "Review Period" .delay 500 100 [("delay", .int 86400000)],
    act "4" "Distribute Reports" .sendEmail 700 100 [("to", .text (slot "stakeholders")),
      ("subject", .text ("Monthly Reports - " ++ slot "lastMonth.name")),
      ("attachments", .text (slot "reports"))],
    done "5" 900], chain ["1", "2", "3", "4", "5"], 1⟩
  vars := [("lastMonth", .object []), ("stakeholders", .list []), ("reports", .list [])]

/-- All templates, in the order in which they are listed. -/
def all : List Blueprint :=
  [clientOnboarding, projectKickoff, quoteFollowUp, taskEscalation, monthlyReporting]

/-- The templates of a category, or all of them. -/
def ofCategory (category : Option String) : List Blueprint :=
  all.filter fun b => category.all fun c => b.category = c

/-- The template with an identifier. -/
def named (id : String) : Except Failure Blueprint :=
  match all.find? fun b => b.id = id with
  | some b => .ok b
  | none => .error (.templateMissing id)

end Catalogue

end TriggerFlow
