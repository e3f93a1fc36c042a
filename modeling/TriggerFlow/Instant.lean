import TriggerFlow.Number.Binary64

/-!
Points in time as people write them: a wall clock reading to the microsecond, with the offset of that
clock from universal time if it is known. Readings with and without an offset cannot be ordered
against each other.
-/

namespace TriggerFlow

/-- A wall clock reading. -/
structure Instant where
  /-- Microseconds since the first day of the year 1, by the wall clock. -/
  wall : Int
  /-- Seconds by which the wall clock is ahead of universal time. -/
  offset : Option Int
  deriving DecidableEq, Repr, Inhabited

namespace Instant

/-- Microseconds in a second, a minute and a day. -/
def second : Int := 1000000
def minuteLength : Int := 60 * second
def dayLength : Int := 86400 * second

/-- Days before the first day of a year, in the calendar with leap years by the Gregorian rule. -/
def daysBeforeYear (year : Nat) : Nat :=
  let past := year - 1
  past * 365 + past / 4 - past / 100 + past / 400

def isLeap (year : Nat) : Bool := year % 4 = 0 && (year % 100 ≠ 0 || year % 400 = 0)

/-- The lengths of the months of a year. -/
def monthLengths (year : Nat) : List Nat :=
  [31, if isLeap year then 29 else 28, 31, 30, 31, 30, 31, 31, 30, 31, 30, 31]

/-- The length of a month counted from 1; zero for what is no month. -/
def monthLength (year month : Nat) : Nat :=
  if month = 0 then 0 else (monthLengths year).getD (month - 1) 0

/-- Days before the first day of a month. -/
def daysBeforeMonth (year month : Nat) : Nat := ((monthLengths year).take (month - 1)).foldl (· + ·) 0

/-- A calendar date. -/
structure Date where
  year : Nat
  month : Nat
  day : Nat
  deriving DecidableEq, Repr

/-- Whether the date is one of the years 1 to 9999. -/
def Date.isValid (d : Date) : Bool :=
  1 ≤ d.year && d.year ≤ 9999 && 1 ≤ d.day && d.day ≤ monthLength d.year d.month

/-- Days since the first day of the year 1. -/
def Date.toDays (d : Date) : Nat :=
  daysBeforeYear d.year + daysBeforeMonth d.year d.month + (d.day - 1)

/-- Finds the month of a day of the year, both counted from zero in what is left. -/
def monthOf : List Nat → Nat → Nat → Nat × Nat
  | [], month, day => (month, day)
  | length :: rest, month, day =>
    if day < length then (month, day) else monthOf rest (month + 1) (day - length)

/-- The day of the week, Sunday being 0. The first day of the year 1 is a Monday. -/
def Date.weekday (d : Date) : Nat := (d.toDays + 1) % 7

/-- The date so many days after the first day of the year 1. The year is estimated by the mean length
and is then at most one too large. -/
def Date.ofDays (days : Nat) : Date :=
  let guess := days * 400 / 146097 + 1
  let year := if daysBeforeYear guess ≤ days then
      if daysBeforeYear (guess + 1) ≤ days then guess + 1 else guess
    else guess - 1
  let (month, day) := monthOf (monthLengths year) 1 (days - daysBeforeYear year)
  ⟨year, month, day + 1⟩

/-- The end of the last day of the year 9999. -/
def wallEnd : Int := (daysBeforeYear 10000 : Int) * dayLength

/-- Whether the reading lies in the years 1 to 9999. -/
def inCalendar (wall : Int) : Bool := 0 ≤ wall && wall < wallEnd

/-- The reading of a date and a time of day. -/
def ofParts (date : Date) (hour minute second' micro : Nat) (offset : Option Int) : Instant :=
  ⟨(date.toDays : Int) * dayLength +
    (((hour * 60 + minute) * 60 + second' : Nat) : Int) * second + (micro : Int), offset⟩

def date (t : Instant) : Date := .ofDays (t.wall / dayLength).toNat

/-- Microseconds since midnight. -/
def dayTime (t : Instant) : Nat := (t.wall % dayLength).toNat

def hour (t : Instant) : Nat := t.dayTime / 3600000000
def minute (t : Instant) : Nat := t.dayTime / 60000000 % 60
def seconds (t : Instant) : Nat := t.dayTime / 1000000 % 60
def micros (t : Instant) : Nat := t.dayTime % 1000000

/-- Whether the offset is known. -/
def isAware (t : Instant) : Bool := t.offset.isSome

/-- Microseconds by universal time; by the wall clock if the offset is unknown. -/
def universal (t : Instant) : Int := t.wall - t.offset.getD 0 * second

/-- Two readings name the same point in time. One with and one without an offset never do. -/
def same (a b : Instant) : Bool := a.isAware = b.isAware && a.universal = b.universal

/-- The order of two readings; none if only one of them has an offset. -/
def order? (a b : Instant) : Option Ordering :=
  if a.isAware = b.isAware then some (compare a.universal b.universal) else none

/-- The reading later by so many microseconds, if the calendar has it. -/
def later? (t : Instant) (micros : Int) : Option Instant :=
  if inCalendar (t.wall + micros) then some ⟨t.wall + micros, t.offset⟩ else none

theorem isAware_of_later? {t later : Instant} {micros : Int} (found : t.later? micros = some later) :
    later.isAware = t.isAware := by
  rw [later?] at found
  split at found <;> cases found
  rfl

/-- The start of the minute. -/
def startOfMinute (t : Instant) : Instant := ⟨t.wall - t.wall % minuteLength, t.offset⟩

/-- Microseconds from one reading to another; none if only one of them has an offset. -/
def since? (finish start : Instant) : Option Int :=
  if finish.isAware = start.isAware then some (finish.universal - start.universal) else none

theorem same_refl (t : Instant) : t.same t = true := by simp [same]

theorem order?_isSome_iff (a b : Instant) : (order? a b).isSome ↔ a.isAware = b.isAware := by
  unfold order?
  split <;> simp_all

end Instant

/-- Why a number of seconds is no length of time. -/
inductive DurationFault where
  | nan
  | infinite
  | tooLong (days : Int)
  /-- The count of days does not fit in a word of 32 bits. -/
  | beyondWord
  deriving DecidableEq, Repr

namespace Duration

/-- A number of seconds in whole microseconds. The whole seconds are exact; the fraction is scaled
with one rounding and then goes to the nearest microsecond, a tie to the even one of the sum. -/
def ofSeconds (seconds : Binary64) : Except DurationFault Int :=
  match seconds.shape with
  | .nan => .error .nan
  | .infinite _ => .error .infinite
  | .finite .. =>
    match seconds.split? with
    | none => .error .nan
    | some (whole, fraction) =>
      let scaled := fraction.mulNat 1000000
      let base := whole * 1000000
      let micros := match scaled.split? with
        | none => base
        | some (part, rest) =>
          let low := base + part
          match rest.compare? (Binary64.ofRatio false 1 2), rest.compare? (Binary64.ofRatio true 1 2) with
          | some .gt, _ => low + 1
          | some .eq, _ => if low % 2 = 0 then low else low + 1
          | _, some .lt => low - 1
          | _, some .eq => if low % 2 = 0 then low else low - 1
          | _, _ => low
      let days := micros / Instant.dayLength
      if days < -(twoTo 31 : Int) ∨ (twoTo 31 : Int) ≤ days then .error .beyondWord
      else if 999999999 < days ∨ days < -999999999 then .error (.tooLong days)
      else .ok micros

/-- A length of time as a number of seconds. -/
def toSeconds (micros : Int) : Binary64 :=
  Binary64.ofRatio (decide (micros < 0)) micros.natAbs 1000000

end Duration

end TriggerFlow
