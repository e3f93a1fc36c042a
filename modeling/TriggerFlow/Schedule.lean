import TriggerFlow.Instant
import TriggerFlow.Text.Trim

/-!
Schedules: the minutes, hours, days of the month, months and days of the week at which something is
due, and optionally the seconds and years. When both kinds of days are restricted, a day of either kind
will do.
-/

namespace TriggerFlow

/-- The columns of a schedule, in the order in which they are written. -/
inductive Column where
  | minute | hour | day | month | weekday | second | year
  deriving DecidableEq, Repr, Inhabited

namespace Column

def all : List Column := [.minute, .hour, .day, .month, .weekday, .second, .year]

def low : Column → Nat
  | .day | .month => 1
  | .year => 1970
  | _ => 0

def high : Column → Nat
  | .minute | .second => 59
  | .hour => 23
  | .day => 31
  | .month => 12
  | .weekday => 6
  | .year => 2099

/-- How many values a column can take. -/
def size (c : Column) : Nat := c.high + 1 - c.low

end Column

/-- Which of the weekdays of one name in a month: counted from its start, or the last. -/
inductive Occurrence where
  | nth (n : Nat)
  | last
  deriving DecidableEq, Repr

/-- What one column allows. -/
inductive Mark where
  | every
  | value (n : Nat)
  /-- The last day of a month. -/
  | lastDay
  deriving DecidableEq, Repr

/-- A column with its marks. -/
structure Allowed where
  marks : List Mark
  deriving DecidableEq, Repr

namespace Allowed

/-- No restriction. -/
def isEvery (a : Allowed) : Bool := a.marks.contains .every

def holds (a : Allowed) (n : Nat) : Bool := a.isEvery || a.marks.contains (.value n)

end Allowed

/-- A schedule. The occurrences go with days of the week, Sunday being 0. -/
structure Schedule where
  column : Column → Allowed
  occurrences : List (Nat × Occurrence)

namespace Schedule

open Instant (Date monthLength)

/-- Whether a date is the occurrence of its day of the week. -/
def isOccurrence (d : Date) (weekday : Nat) : Occurrence → Bool
  | .nth n => d.weekday = weekday && (d.day - 1) / 7 + 1 = n
  | .last => d.weekday = weekday && monthLength d.year d.month < d.day + 7

def monthHolds (s : Schedule) (d : Date) : Bool :=
  (s.column .month).holds d.month && (s.column .year).holds d.year

/-- Whether the day of the month is allowed. -/
def dayHolds (s : Schedule) (d : Date) : Bool :=
  let a := s.column .day
  a.holds d.day || (a.marks.contains .lastDay && d.day = monthLength d.year d.month)

/-- Whether the day of the week is allowed; occurrences take the place of plain days. -/
def weekdayHolds (s : Schedule) (d : Date) : Bool :=
  if s.occurrences.isEmpty then (s.column .weekday).holds (d.weekday)
  else s.occurrences.any fun o => isOccurrence d o.1 o.2

/-- The occurrences alone, which restrict the days of the month too. -/
def occurrenceHolds (s : Schedule) (d : Date) : Bool :=
  s.occurrences.isEmpty || s.occurrences.any fun o => isOccurrence d o.1 o.2

/-- Years that a search for an earlier date goes back. -/
def searchYears : Nat := 50

/-- Whether a property holds of some date of an allowed month, up to a date and not too long before. -/
def holdsBefore (s : Schedule) (property : Date → Bool) (limit : Date) : Bool :=
  (List.range (searchYears + 1)).any fun back =>
    let year := limit.year - back
    back < limit.year && (s.column .year).holds year && (List.range 12).any fun m =>
      let month := m + 1
      (s.column .month).holds month && (List.range (monthLength year month)).any fun n =>
        let d : Date := ⟨year, month, n + 1⟩
        decide (d.toDays ≤ limit.toDays) && property d

/-- Whether the days of a date are right. With both kinds of days restricted either will do, if each of
them comes up at all. -/
def dateHolds (s : Schedule) (d : Date) : Bool :=
  s.monthHolds d &&
    if (s.column .day).isEvery || (s.column .weekday).isEvery then
      s.dayHolds d && s.weekdayHolds d
    else
      let byDay (d : Date) := s.dayHolds d && s.occurrenceHolds d
      (byDay d || s.weekdayHolds d) && s.holdsBefore byDay d && s.holdsBefore s.weekdayHolds d

/-- Whether the schedule is due in the minute that begins at a point in time, by its own clock. -/
def isDue (s : Schedule) (minute : Instant) : Bool :=
  (s.column .minute).holds minute.minute && (s.column .hour).holds minute.hour &&
    (s.column .second).holds 0 && s.dateHolds minute.date

end Schedule

end TriggerFlow
