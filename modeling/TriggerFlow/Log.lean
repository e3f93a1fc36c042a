import TriggerFlow.Instant.Printer
import TriggerFlow.Instant.Reader
import TriggerFlow.Json.Printer

/-!
Log lines. Every entry is one line of JSON. The identifiers of the workflow, the run and the node stand
beside the message; whatever else an entry brings stands under `extra`.
-/

namespace TriggerFlow.Log

/-- The levels by name. Two of them have a second name. -/
def levels : List (String × Nat) :=
  [("CRITICAL", 50), ("FATAL", 50), ("ERROR", 40), ("WARNING", 30), ("WARN", 30), ("INFO", 20),
    ("DEBUG", 10), ("NOTSET", 0)]

/-- The level with a name. -/
def level? (name : String) : Option Nat := Ordered.get? levels name

/-- The name that lines show for a level. -/
def levelName (name : String) : String :=
  match level? name with
  | some n => ((levels.find? fun pair => pair.2 = n).map Prod.fst).getD name
  | none => name

/-- What the lowest level to be logged is set to, in any case; else the text that refuses it. -/
def threshold (name : String) : Except String Nat :=
  match level? (Text.upperAscii name) with
  | some n => .ok n
  | none => .error ("Unknown level: " ++ Text.quoted (Text.upperAscii name))

/-- An entry of the log. -/
structure Entry where
  time : Instant
  level : String
  logger : String
  thread : String
  message : String
  extra : Members
  deriving DecidableEq, Repr

/-- The names that an entry uses itself; what is brought under them is not shown. -/
def ownNames : List String :=
  ["name", "msg", "args", "levelname", "levelno", "pathname", "filename", "module", "exc_info",
    "exc_text", "stack_info", "lineno", "funcName", "created", "msecs", "relativeCreated", "thread",
    "threadName", "processName", "process", "message", "asctime"]

/-- The names of the identifiers that stand beside the message. -/
def correlationNames : List String := ["workflow_id", "execution_id", "node_id"]

/-- What an entry brings and shows. -/
def Entry.shown (e : Entry) : Members :=
  e.extra.filter fun pair => !ownNames.contains pair.1 && !pair.1.startsWith "_"

def Entry.toRecord (e : Entry) : Json :=
  let (ids, rest) := e.shown.partition fun pair => correlationNames.contains pair.1
  .object ([("timestamp", .text e.time.text), ("level", .text e.level), ("logger", .text e.logger),
    ("thread", .text e.thread), ("message", .text e.message)] ++ ids ++
    if rest.isEmpty then [] else [("extra", .object rest)])

/-- The line of an entry. There is none if the entry brings an integer that is too long to be written. -/
def Entry.line? (e : Entry) : Option String := if e.toRecord.isWritable then some e.toRecord.print else none

/-- A name that an entry may not bring. -/
def reserved? (extra : Members) : Option String := extra.keys.find? fun name => ownNames.contains name

/-- The text that refuses it. -/
def reservedText (name : String) : String :=
  "\"Attempt to overwrite " ++ Text.quoted name ++ " in LogRecord\""

/-- Loggers whose chatter is never shown below the level of information. -/
def quietLoggers : List String := ["urllib3", "uvicorn.access"]

/-- The lowest level that a logger shows, given the lowest level of all. -/
def lowest (root : Nat) (logger : String) : Nat :=
  if quietLoggers.any fun quiet => logger = quiet || logger.startsWith (quiet ++ ".") then max root 20
  else root

/-- Whether a logger shows a level. -/
def shows (root : Nat) (logger : String) (level : Nat) : Bool := 0 < level && lowest root logger ≤ level

/-- The point in time so many seconds after the start of 1970, to the nearest microsecond. -/
def timeOfSeconds? (seconds : Binary64) : Option Instant := do
  let (whole, fraction) ← seconds.split?
  let micros ← (fraction.mulNat 1000000).round?
  let wall := Instant.epoch + whole * Instant.second + micros
  if Instant.inCalendar wall then some ⟨wall, some 0⟩ else none

end TriggerFlow.Log
