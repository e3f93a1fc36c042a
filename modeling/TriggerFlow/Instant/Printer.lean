import TriggerFlow.Instant
import TriggerFlow.Text.Trim

/-!
Texts of points in time in the international format. Messages write every known offset as a
difference; records write `Z` for universal time, and cut an offset down to whole minutes.
-/

namespace TriggerFlow.Instant

open Text (padNat)

/-- A date as year, month and day. -/
def Date.text (d : Date) : String :=
  padNat 4 d.year ++ "-" ++ padNat 2 d.month ++ "-" ++ padNat 2 d.day

/-- The date and the time of day, with six digits of fraction or none. -/
def wallText (t : Instant) : String :=
  let fraction := if t.micros = 0 then "" else "." ++ padNat 6 t.micros
  t.date.text ++ "T" ++ padNat 2 t.hour ++ ":" ++ padNat 2 t.minute ++ ":" ++ padNat 2 t.seconds ++
    fraction

/-- An offset as a signed difference in hours and minutes, and seconds if there are any. -/
def offsetText (offset : Int) : String :=
  let n := offset.natAbs
  let rest := if n % 60 = 0 then "" else ":" ++ padNat 2 (n % 60)
  (if offset < 0 then "-" else "+") ++ padNat 2 (n / 3600) ++ ":" ++ padNat 2 (n / 60 % 60) ++ rest

/-- The text in messages. -/
def text (t : Instant) : String :=
  t.wallText ++ match t.offset with
    | none => ""
    | some offset => offsetText offset

/-- An offset in a record: a signed difference in hours and minutes. -/
def recordOffset (offset : Int) : String :=
  let minutes := offset.natAbs / 60
  (if offset < 0 then "-" else "+") ++ padNat 2 (minutes / 60) ++ ":" ++ padNat 2 (minutes % 60)

/-- The text in records. -/
def recordText (t : Instant) : String :=
  t.wallText ++ match t.offset with
    | none => ""
    | some 0 => "Z"
    | some offset => recordOffset offset

end TriggerFlow.Instant
