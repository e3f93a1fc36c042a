import TriggerFlow.Text.Trim

/-!
Quoted texts, as messages show them: in single quotes, or in double quotes when the text holds a
single quote and no double one. Backslashes, the chosen quote and unprintable characters are
written as escapes.
-/

namespace TriggerFlow.Text

/-- The escape of a code point by its number: two, four or eight hexadecimal digits. -/
def numericEscape (code : Nat) : String :=
  if code < 0x100 then "\\x" ++ padHex 2 code
  else if code < 0x10000 then "\\u" ++ padHex 4 code
  else "\\U" ++ padHex 8 code

/-- One character of a quoted text. -/
def quoteChar (quote c : Char) : String :=
  if c = quote ∨ c = '\\' then String.ofList ['\\', c]
  else if c = '\t' then "\\t"
  else if c = '\n' then "\\n"
  else if c = '\r' then "\\r"
  else if isPrintable c then c.toString
  else numericEscape c.toNat

/-- The quote that surrounds a text: double only if that saves an escape. -/
def quoteFor (text : List Char) : Char :=
  if text.contains '\'' && !text.contains '"' then '"' else '\''

/-- A text in quotes. -/
def quoted (text : String) : String :=
  let quote := quoteFor text.toList
  String.join ([quote.toString] ++ text.toList.map (quoteChar quote) ++ [quote.toString])

end TriggerFlow.Text
