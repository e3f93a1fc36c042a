import TriggerFlow.Ordered
import TriggerFlow.Text.Table.Name
import TriggerFlow.Text.Trim

/-!
Characters by their names. The case of a name does not matter.
-/

namespace TriggerFlow.Text

/-- The code point that a name has in a run of names. -/
def codeInRun? (name : String) (run : Nat × List String) : Option Nat :=
  (run.2.findIdx? fun other => other = name).map fun index => run.1 + index

/-- The character with a name. -/
def charNamed? (name : String) : Option Char :=
  let name := upperAscii name
  ((Table.nameRuns.findSome? (codeInRun? name)).or (Ordered.get? Table.otherNames name)).map Char.ofNat

end TriggerFlow.Text
