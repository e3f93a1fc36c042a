import TriggerFlow.Text.Class

/-!
Arguments on a command line. An argument that begins with a dash names an option, in full or by a prefix
that only one option has; a value follows it or stands behind an equals sign. Two dashes alone make
everything after them a plain word.
-/

namespace TriggerFlow.CommandLine

/-- How reading arguments ends if no command comes of it. -/
inductive Usage where
  | wrong
  | help
  | version
  deriving DecidableEq, Repr

/-- What an argument is. -/
inductive Argument where
  | word (text : String)
  | separator
  /-- An option with the value behind its equals sign. -/
  | option (name : String) (value : Option String)
  /-- Something with a dash that names no option. -/
  | unknown
  deriving DecidableEq, Repr

namespace Argument

/-- A number with a dash in front is a word. -/
def isNegativeNumber (text : List Char) : Bool :=
  let isDigit (c : Char) : Bool := (Text.decimalDigit? c).isSome
  match text with
  | '-' :: rest =>
    match rest.dropWhile isDigit with
    | [] => !rest.isEmpty
    | '.' :: fraction => !fraction.isEmpty && fraction.all isDigit
    | _ => false
  | _ => false

/-- The parts of a text before and after its first equals sign. -/
def atEquals (text : String) : String × Option String :=
  let chars := text.toList
  let front := chars.takeWhile (· ≠ '=')
  match chars.drop front.length with
  | [] => (text, none)
  | _ :: value => (String.ofList front, some (String.ofList value))

/-- The options that a text may stand for, with the value that it then brings. -/
def candidates (names : List String) (text : String) : List (String × Option String) :=
  if text.startsWith "--" then
    let (front, value) := atEquals text
    (names.filter fun name => name.startsWith front).map fun name => (name, value)
  else
    names.filterMap fun name =>
      if name = (text.take 2).toString then some (name, some (text.drop 2).toString)
      else if name.startsWith text then some (name, none)
      else none

/-- What a text with a dash in front is, where the names of the options are known. -/
def ofDashed (names : List String) (text : String) : Except Usage Argument :=
  let (front, value) := atEquals text
  if names.contains text then .ok (.option text none)
  else if value.isSome && names.contains front then .ok (.option front value)
  else
    match candidates names text with
    | [(name, value)] => .ok (.option name value)
    | _ :: _ :: _ => .error .wrong
    | [] =>
      if isNegativeNumber text.toList || text.toList.contains ' ' then .ok (.word text)
      else .ok .unknown

def ofText (names : List String) (text : String) : Except Usage Argument :=
  if text.startsWith "-" && text ≠ "-" then ofDashed names text else .ok (.word text)

def ofTexts (names : List String) : List String → Except Usage (List Argument)
  | [] => .ok []
  | text :: rest =>
    if text = "--" then .ok (.separator :: rest.map .word)
    else do
      let first ← ofText names text
      let others ← ofTexts names rest
      return first :: others

end Argument

/-- The arguments that a command takes. Every option takes one value. -/
structure Form where
  options : List String
  takesOperand : Bool
  /-- Whether at most one of the options may be given. -/
  exclusive : Bool
  /-- Whether a value is of use to an option. -/
  accepts : String → String → Bool

/-- The arguments that were given. -/
structure Given where
  operand : Option String
  /-- Options with their values, the latest last. -/
  values : List (String × String)
  /-- Whether there was an argument that the command does not take. -/
  stray : Bool
  deriving DecidableEq, Repr

namespace Given

def empty : Given := ⟨none, [], false⟩

/-- The values of an option. -/
def all (g : Given) (name : String) : List String :=
  (g.values.filter fun pair => pair.1 = name).map Prod.snd

/-- The value of an option; the latest one counts. -/
def value? (g : Given) (name : String) : Option String := (g.all name).getLast?

end Given

namespace Form

/-- The names that ask for help. -/
def helpNames : List String := ["-h", "--help"]

def names (f : Form) : List String := helpNames ++ f.options

/-- What asking for help comes to. It takes no value, but letters behind the short name do not matter. -/
def helpUsage (name : String) (value : Option String) : Usage :=
  match value with
  | none => .help
  | some value => if name = "-h" && value ≠ "" then .help else .wrong

/-- Takes an option with its value. -/
def give (f : Form) (name value : String) (g : Given) : Except Usage Given :=
  if !f.accepts name value then .error .wrong
  else if f.exclusive && g.values.any fun pair => pair.1 ≠ name then .error .wrong
  else .ok { g with values := g.values ++ [(name, value)] }

/-- Reads the arguments of a command. -/
def readFrom (f : Form) : List Argument → Given → Except Usage Given
  | [], g => .ok g
  | .unknown :: rest, g => f.readFrom rest { g with stray := true }
  | .option name (some value) :: rest, g =>
    if helpNames.contains name then .error (helpUsage name value)
    else do
      let g ← f.give name value g
      f.readFrom rest g
  | .option name none :: .word value :: rest, g =>
    if helpNames.contains name then .error .help
    else do
      let g ← f.give name value g
      f.readFrom rest g
  | .option name none :: _, _ => .error (if helpNames.contains name then .help else .wrong)
  | .separator :: .word text :: rest, g =>
    if f.takesOperand && g.operand.isNone then f.readFrom rest { g with operand := some text }
    else f.readFrom rest { g with stray := true }
  | .separator :: rest, g => f.readFrom rest { g with stray := true }
  | .word text :: .separator :: rest, g =>
    if f.takesOperand && g.operand.isNone then f.readFrom rest { g with operand := some text }
    else f.readFrom rest { g with stray := true }
  | .word text :: rest, g =>
    if f.takesOperand && g.operand.isNone then f.readFrom rest { g with operand := some text }
    else f.readFrom rest { g with stray := true }

/-- Reads the arguments of a command, of which none may be missing. -/
def read (f : Form) (texts : List String) : Except Usage Given := do
  let arguments ← Argument.ofTexts f.names texts
  let g ← f.readFrom arguments .empty
  if f.takesOperand && g.operand.isNone then .error .wrong
  else if f.exclusive && g.values.isEmpty then .error .wrong
  else .ok g

end Form

/-- The names of the options that stand in front of a command. -/
def frontNames : List String := Form.helpNames ++ ["--version"]

/-- The word that names the command, what follows it, and whether there was something stray before it. -/
def commandWord (stray : Bool) : List String → Except Usage (String × List String × Bool)
  | [] => .error .wrong
  | text :: rest =>
    if text = "--" then .error .wrong
    else match Argument.ofText frontNames text with
      | .error usage => .error usage
      | .ok (.word name) => .ok (name, rest, stray)
      | .ok (.option "--version" none) => .error .version
      | .ok (.option name value) => .error (Form.helpUsage name value)
      | .ok _ => commandWord true rest

end TriggerFlow.CommandLine
