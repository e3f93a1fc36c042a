import TriggerFlow.Json
import TriggerFlow.Number.Decimal

/-!
Settings of the actions that park a run: how long a delay takes, what a wait is for, and how long it
may take. A number may be written as a text; truth values are no numbers.
-/

namespace TriggerFlow.Action

/-- Why a setting is of no use. -/
inductive SettingFault where
  | notANumber (key : String)
  /-- An integer beyond the range of binary numbers. -/
  | outOfRange
  | delayMissing
  | delayNegative
  | timeoutNotPositive
  | expressionMissing
  deriving DecidableEq, Repr

/-- The text of a fault. -/
def SettingFault.message : SettingFault → String
  | .notANumber key => key ++ " must be a number"
  | .outOfRange => "int too large to convert to float"
  | .delayMissing => "delay action requires 'delay' (ms) or 'seconds'"
  | .delayNegative => "delay must not be negative"
  | .timeoutNotPositive => "timeout must be positive"
  | .expressionMissing => "wait-condition action requires an 'expression'"

/-- The number that a setting is or writes. -/
def numberOf (key : String) : Json → Except SettingFault Binary64
  | .int n =>
    match Binary64.ofInt? n with
    | some x => .ok x
    | none => .error .outOfRange
  | .float x => .ok x
  | .text s =>
    match Decimal.readLoose? s with
    | some x => .ok x
    | none => .error (.notANumber key)
  | _ => .error (.notANumber key)

/-- The setting that gives the length of a delay: `seconds` before `delay`. -/
def delayKey (config : Members) : String := if config.has "seconds" then "seconds" else "delay"

/-- The length of a delay in seconds; `delay` counts milliseconds. -/
def delaySeconds (config : Members) : Except SettingFault Binary64 := do
  let seconds ← match config.get? "seconds" with
    | some datum => numberOf "seconds" datum
    | none =>
      match config.get? "delay" with
      | some datum => (numberOf "delay" datum).map fun x => x.divNat 1000
      | none => .error .delayMissing
  if seconds.compare? (.zero false) = some .lt then .error .delayNegative else .ok seconds

/-- Seconds after which a wait fails, if there is a limit; `timeout` counts milliseconds. -/
def waitLimit (config : Members) : Except SettingFault (Option Binary64) :=
  match Json.member config "timeout" with
  | .null => .ok none
  | datum => do
    let seconds := (← numberOf "timeout" datum).divNat 1000
    match seconds.compare? (.zero false) with
    | some .lt | some .eq => .error .timeoutNotPositive
    | _ => .ok (some seconds)

/-- The condition that a wait is for: `expression`, or `condition` in the place of an empty one. -/
def waitExpression (config : Members) : Except SettingFault String :=
  match (Json.member config "expression").orElse (Json.member config "condition") with
  | .text s => if Text.isBlankText s then .error .expressionMissing else .ok s
  | _ => .error .expressionMissing

end TriggerFlow.Action
