import TriggerFlow.Act
import TriggerFlow.Action.Dispatcher
import TriggerFlow.Action.Reply
import TriggerFlow.Action.Setting
import TriggerFlow.Action.Webhook
import TriggerFlow.Automation
import TriggerFlow.Automation.Basic
import TriggerFlow.Automation.Definition
import TriggerFlow.Automation.Scheduler
import TriggerFlow.Catalogue
import TriggerFlow.CommandLine
import TriggerFlow.CommandLine.Argument
import TriggerFlow.CommandLine.Command
import TriggerFlow.Execution
import TriggerFlow.Execution.Record
import TriggerFlow.Expr.Check
import TriggerFlow.Expr.Eval
import TriggerFlow.Expr.Formatted
import TriggerFlow.Expr.Grammar
import TriggerFlow.Expr.Spelling
import TriggerFlow.Expr.Syntax
import TriggerFlow.Expr.Token
import TriggerFlow.Expr.Value
import TriggerFlow.Failure
import TriggerFlow.Graph.Basic
import TriggerFlow.Graph.Check
import TriggerFlow.Graph.Defect
import TriggerFlow.Graph.Document
import TriggerFlow.Graph.Record
import TriggerFlow.Graph.Same
import TriggerFlow.Graph.Search
import TriggerFlow.Instant
import TriggerFlow.Instant.Printer
import TriggerFlow.Instant.Reader
import TriggerFlow.Json
import TriggerFlow.Json.Printer
import TriggerFlow.Json.Reader
import TriggerFlow.Log
import TriggerFlow.Log.Message
import TriggerFlow.Main
import TriggerFlow.Number.Binary64
import TriggerFlow.Number.Decimal
import TriggerFlow.Ordered
import TriggerFlow.Proofs.Act
import TriggerFlow.Proofs.Automation.Audit
import TriggerFlow.Proofs.Automation.Definition
import TriggerFlow.Proofs.Automation.Move
import TriggerFlow.Proofs.Automation.Request
import TriggerFlow.Proofs.Automation.Session
import TriggerFlow.Proofs.Automation.Validated
import TriggerFlow.Proofs.Graph.Cycle
import TriggerFlow.Proofs.Graph.Valid
import TriggerFlow.Proofs.Ordered
import TriggerFlow.Proofs.Run.Acts
import TriggerFlow.Proofs.Run.Calm
import TriggerFlow.Proofs.Run.Copies
import TriggerFlow.Proofs.Run.Course
import TriggerFlow.Proofs.Run.Drive
import TriggerFlow.Proofs.Run.Frame
import TriggerFlow.Proofs.Run.Ledger
import TriggerFlow.Proofs.Run.Life
import TriggerFlow.Proofs.Run.Opening
import TriggerFlow.Proofs.Run.Parts
import TriggerFlow.Proofs.Run.Sound
import TriggerFlow.Proofs.Run.Trail
import TriggerFlow.Proofs.Run.Visit
import TriggerFlow.Proofs.Run.Visits
import TriggerFlow.Proofs.Run.Whole
import TriggerFlow.Proofs.Store
import TriggerFlow.Proofs.World
import TriggerFlow.Record.Leaf
import TriggerFlow.Rest
import TriggerFlow.Rest.Body
import TriggerFlow.Rest.Request
import TriggerFlow.Run.Desk
import TriggerFlow.Run.Drive
import TriggerFlow.Run.Step
import TriggerFlow.Schedule
import TriggerFlow.Schedule.Reader
import TriggerFlow.Settings
import TriggerFlow.Settings.Assignment
import TriggerFlow.Store
import TriggerFlow.Store.Folder
import TriggerFlow.Text.CharName
import TriggerFlow.Text.Class
import TriggerFlow.Text.Composition
import TriggerFlow.Text.Quoted
import TriggerFlow.Text.Table.Composition
import TriggerFlow.Text.Table.Identifier
import TriggerFlow.Text.Table.Name
import TriggerFlow.Text.Table.Printable
import TriggerFlow.Text.Trim
import TriggerFlow.Trigger.Firing
import TriggerFlow.Trigger.Launching
import TriggerFlow.Trigger.Memory
import TriggerFlow.Variables.Context
import TriggerFlow.Variables.Path
import TriggerFlow.Workflow
import TriggerFlow.World
import TriggerFlow.Proofs.Graph.Exact
import TriggerFlow.Proofs.Run.Turn
import TriggerFlow.Proofs.Run.Chronicle
import TriggerFlow.Proofs.Run.Attending
import TriggerFlow.Proofs.Run.Stations
import TriggerFlow.Proofs.Run.Conduct
import TriggerFlow.Proofs.Run.Operations
import TriggerFlow.Proofs.Run.Circulation
import TriggerFlow.Proofs.Run.Stopped
import TriggerFlow.Proofs.Run.Calls
import TriggerFlow.Proofs.Run.Legs
import TriggerFlow.Proofs.Run.Cancellation
import TriggerFlow.Proofs.Run.Tally
import TriggerFlow.Proofs.Run.Settling
import TriggerFlow.Proofs.Run.Gathering
import TriggerFlow.Proofs.Run.Outputs
import TriggerFlow.Proofs.Run.Journal
import TriggerFlow.Proofs.Run.Consistency
import TriggerFlow.Proofs.Run.Outings
import TriggerFlow.Proofs.Automation.Passage
import TriggerFlow.Proofs.Run.Waiting
import TriggerFlow.Proofs.Run.Apart
import TriggerFlow.Proofs.Run.Resuming
import TriggerFlow.Proofs.Clock
import TriggerFlow.Proofs.CommandLine.Endings
import TriggerFlow.Proofs.Instant.Calendar
import TriggerFlow.Proofs.Automation.Delivery
import TriggerFlow.Proofs.Automation.Ticking
import TriggerFlow.Proofs.Automation.Refused
import TriggerFlow.Proofs.Automation.Statistics
import TriggerFlow.Proofs.Automation.Serial
import TriggerFlow.Proofs.Automation.Remembering
import TriggerFlow.Proofs.Run.Parking
import TriggerFlow.Proofs.Trigger.Watch
import TriggerFlow.Proofs.Trigger.Minute
import TriggerFlow.Proofs.Graph.Document
import TriggerFlow.Proofs.Json.Printed
import TriggerFlow.Proofs.Workflow.Record
import TriggerFlow.Proofs.Workflow.Plain
import TriggerFlow.Proofs.Execution.Record
import TriggerFlow.Proofs.Store.Mirror
import TriggerFlow.Proofs.Automation.Commuting
import TriggerFlow.Proofs.Variables.Rendering
import TriggerFlow.Proofs.Variables.Segments
import TriggerFlow.Proofs.Run.Sending
import TriggerFlow.Proofs.Expr.Verbatim
import TriggerFlow.Proofs.Expr.Dotted
import TriggerFlow.Proofs.Expr.Failing
import TriggerFlow.Proofs.Graph.Importing
import TriggerFlow.Proofs.Expr.Clash
import TriggerFlow.Proofs.Graph.Tour
import TriggerFlow.Proofs.Log
