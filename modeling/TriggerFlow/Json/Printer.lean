import TriggerFlow.Json.Reader
import TriggerFlow.Text.Quoted

/-!
Texts of structured data: JSON on one line, JSON with an indented line per item, and the literal form
that messages use.
-/

namespace TriggerFlow.Json

/-- One character of a JSON string. Characters beyond ASCII stand for themselves. -/
def escapeChar (c : Char) : String :=
  if c = '"' then "\\\""
  else if c = '\\' then "\\\\"
  else if c = '\n' then "\\n"
  else if c = '\r' then "\\r"
  else if c = '\t' then "\\t"
  else if c.toNat = 8 then "\\b"
  else if c.toNat = 12 then "\\f"
  else if c.toNat < 0x20 then "\\u" ++ Text.padHex 4 c.toNat
  else c.toString

/-- A text as a JSON string. -/
def quote (s : String) : String := "\"" ++ String.join (s.toList.map escapeChar) ++ "\""

mutual

/-- Whether a datum has a text: an integer of more digits than are read is not written either. -/
def isWritable : Json → Bool
  | .int n => (Nat.toDigits 10 n.natAbs).length ≤ maxDigits
  | .list items => itemsWritable items
  | .object members => membersWritable members
  | _ => true

def itemsWritable : List Json → Bool
  | [] => true
  | item :: items => isWritable item && itemsWritable items

def membersWritable : List (String × Json) → Bool
  | [] => true
  | (_, value) :: members => isWritable value && membersWritable members

end

/-- What is said of a datum that has no text. -/
def notWritable : String :=
  "Exceeds the limit (" ++ toString maxDigits ++ " digits) for integer string conversion; " ++
    "use sys.set_int_max_str_digits() to increase the limit"

/-- The texts with a separator between them. -/
def joinWith (separator : String) (parts : List String) : String := separator.intercalate parts

mutual

/-- JSON text on one line. -/
def print : Json → String
  | .null => "null"
  | .bool b => if b then "true" else "false"
  | .int n => toString n
  | .float x => Decimal.jsonText x
  | .text s => quote s
  | .list items => "[" ++ joinWith ", " (printItems items) ++ "]"
  | .object members => "\x7b" ++ joinWith ", " (printMembers members) ++ "\x7d"

def printItems : List Json → List String
  | [] => []
  | item :: items => print item :: printItems items

def printMembers : List (String × Json) → List String
  | [] => []
  | (key, value) :: members => (quote key ++ ": " ++ print value) :: printMembers members

end

/-- A bracketed block with a line for each part, indented by two blanks per level. -/
def block (level : Nat) (opening closing : String) (parts : List String) : String :=
  if parts.isEmpty then opening ++ closing
  else
    let inner := "\n" ++ String.ofList (List.replicate (2 * (level + 1)) ' ')
    let outer := "\n" ++ String.ofList (List.replicate (2 * level) ' ')
    opening ++ inner ++ joinWith ("," ++ inner) parts ++ outer ++ closing

mutual

/-- JSON text with one item or member per line; `level` counts the brackets around it. -/
def printIndented (level : Nat) : Json → String
  | .list items => block level "[" "]" (printIndentedItems (level + 1) items)
  | .object members => block level "\x7b" "\x7d" (printIndentedMembers (level + 1) members)
  | .null => "null"
  | .bool b => if b then "true" else "false"
  | .int n => toString n
  | .float x => Decimal.jsonText x
  | .text s => quote s

def printIndentedItems (level : Nat) : List Json → List String
  | [] => []
  | item :: items => printIndented level item :: printIndentedItems level items

def printIndentedMembers (level : Nat) : List (String × Json) → List String
  | [] => []
  | (key, value) :: members =>
    (quote key ++ ": " ++ printIndented level value) :: printIndentedMembers level members

end

/-- The text of a JSON file: indented, with a line end at the end. -/
def fileText (datum : Json) : String := datum.printIndented 0 ++ "\n"

mutual

/-- The literal form of a datum: words for null and the truth values, texts in quotes. -/
def literal : Json → String
  | .null => "None"
  | .bool b => if b then "True" else "False"
  | .int n => toString n
  | .float x => Decimal.text x
  | .text s => Text.quoted s
  | .list items => "[" ++ joinWith ", " (literalItems items) ++ "]"
  | .object members => "\x7b" ++ joinWith ", " (literalMembers members) ++ "\x7d"

def literalItems : List Json → List String
  | [] => []
  | item :: items => literal item :: literalItems items

def literalMembers : List (String × Json) → List String
  | [] => []
  | (key, value) :: members => (Text.quoted key ++ ": " ++ literal value) :: literalMembers members

end

/-- The text of a datum inside a message: a text stands for itself, all else is in literal form. -/
def display : Json → String
  | .text s => s
  | datum => datum.literal

end TriggerFlow.Json
