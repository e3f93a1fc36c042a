import TriggerFlow.Record.Leaf
import TriggerFlow.Settings.Assignment
import TriggerFlow.Store.Folder

/-!
Settings. They come from named texts of the surroundings and from a file of assignments; the
surroundings come first, and the case of names does not matter. Nothing has to be set.
-/

namespace TriggerFlow

/-- Named texts, with the names in lower case. -/
abbrev Variables := Ordered String

/-- The texts of the surroundings and of a file of assignments together. -/
def Variables.gather (surroundings : Ordered String) (file : Option String) : Variables :=
  let named := match file with
    | some text => Assignment.values surroundings text
    | none => []
  let lowered := Ordered.ofPairs (named.map fun pair => (Text.lowerAscii pair.1, pair.2))
  let filed := lowered.filterMap fun pair => pair.2.map (pair.1, ·)
  Ordered.overlay filed (surroundings.map fun pair => (Text.lowerAscii pair.1, pair.2))

/-- Settings of the engine. -/
structure Settings where
  logLevel : String
  /-- The directory in which records are kept. -/
  statePath : String
  workers : Int
  /-- Seconds that an action may take. -/
  timeout : Binary64
  /-- Nodes that one drive may visit. -/
  maxSteps : Int
  /-- Seconds between two ticks of the scheduler. -/
  interval : Binary64
  /-- Where actions are sent; if it is blank they are only reported. -/
  webhookUrl : String
  webhookToken : String
  deriving DecidableEq, Repr

namespace Settings

/-- A setting, or its default in the absence of a text. -/
def setting {α : Type} (vars : Variables) (name : String) (fallback : α)
    (read : Json → Reading α) : Reading α :=
  match vars.get? (Text.lowerAscii name) with
  | some text => (read (.text text)).under name
  | none => .value fallback

/-- An integer with a lower and perhaps an upper bound. -/
def integerIn (low : Int) (high : Option Int) (datum : Json) : Reading Int :=
  match Record.integer datum with
  | .value n =>
    if high.any fun high => high < n then .complain .above
    else if n < low then .complain .below
    else .value n
  | issues => issues

/-- A positive number up to a bound. -/
def positiveUpTo (high : Binary64) (datum : Json) : Reading Binary64 :=
  match Record.number datum with
  | .value x =>
    if x.compare? high = none ∨ x.compare? high = some .gt then .complain .above
    else Record.positive datum
  | issues => issues

def ofVariables (v : Variables) : Reading Settings :=
  Settings.mk <$> setting v "LOG_LEVEL" "INFO" Record.text <*>
    setting v "AUTOMATION_STATE_PATH" "automation_state" (fun d => plainPath <$> Record.text d) <*>
    setting v "AUTOMATION_WORKER_COUNT" 4 (integerIn 1 (some 64)) <*>
    setting v "AUTOMATION_ACTION_TIMEOUT_SECONDS" (.ofIntRounded 30) Record.positive <*>
    setting v "AUTOMATION_MAX_STEPS" 1000 (integerIn 1 none) <*>
    setting v "AUTOMATION_SCHEDULER_INTERVAL_SECONDS" (.ofIntRounded 15)
      (positiveUpTo (.ofIntRounded 60)) <*>
    setting v "AUTOMATION_ACTION_WEBHOOK_URL" "" Record.text <*>
    setting v "AUTOMATION_ACTION_WEBHOOK_TOKEN" "" Record.text

/-- Where records are kept. -/
def shelf (s : Settings) : Shelf := ⟨s.statePath⟩

/-- Whether actions are sent out. -/
def sendsOut (s : Settings) : Bool := !Text.isBlankText s.webhookUrl

end Settings

/-- Settings of the server. -/
structure ServerSettings where
  /-- Whether the server ticks the scheduler. -/
  schedulerEnabled : Bool
  /-- The places that an editor may call from, with commas between them. -/
  origins : String
  deriving DecidableEq, Repr

namespace ServerSettings

open Settings

def ofVariables (v : Variables) : Reading ServerSettings :=
  ServerSettings.mk <$> setting v "AUTOMATION_SCHEDULER_ENABLED" true Record.truth <*>
    setting v "AUTOMATION_CORS_ORIGINS" "http://localhost:5173,http://127.0.0.1:5173" Record.text

/-- The places one by one. -/
def originList (s : ServerSettings) : List String :=
  ((Text.cut ',' s.origins.toList).map fun origin => String.ofList (Text.trim origin)).filter (· ≠ "")

end ServerSettings

end TriggerFlow
