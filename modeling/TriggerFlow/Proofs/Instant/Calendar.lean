import TriggerFlow.Instant
import Mathlib.Order.Basic
import Mathlib.Data.List.GetD
import Mathlib.Algebra.Order.Group.Nat
import Mathlib.Algebra.GroupWithZero.Nat

/-!
# Days and dates

Counting days and naming them by dates are inverse to each other within the years 1 to 9999, so that a wall clock
reading is given back by its date and its time of day.
-/

namespace TriggerFlow.Instant

/-- A year is as long as its months. -/
theorem sum_monthLengths (year : Nat) : (monthLengths year).sum = if isLeap year then 366 else 365 := by
  unfold monthLengths
  split <;> rfl

theorem daysBeforeYear_succ {year : Nat} (positive : 1 ≤ year) :
    daysBeforeYear (year + 1) = daysBeforeYear year + (monthLengths year).sum := by
  obtain ⟨past, rfl⟩ : ∃ past, year = past + 1 := ⟨year - 1, by omega⟩
  have fours : (past + 1) / 4 = past / 4 + if (past + 1) % 4 = 0 then 1 else 0 := by split <;> omega
  have hundreds : (past + 1) / 100 = past / 100 + if (past + 1) % 100 = 0 then 1 else 0 := by split <;> omega
  have cycles : (past + 1) / 400 = past / 400 + if (past + 1) % 400 = 0 then 1 else 0 := by split <;> omega
  have small : past / 100 ≤ past / 4 := by omega
  rw [sum_monthLengths]
  simp only [daysBeforeYear, isLeap, Nat.add_sub_cancel, fours, hundreds, cycles]
  by_cases four : (past + 1) % 4 = 0
  · by_cases hundred : (past + 1) % 100 = 0
    · by_cases cycle : (past + 1) % 400 = 0 <;> simp [four, hundred, cycle] <;> omega
    · have cycle : (past + 1) % 400 ≠ 0 := by omega
      simp [four, hundred, cycle]
      omega
  · have hundred : (past + 1) % 100 ≠ 0 := by omega
    have cycle : (past + 1) % 400 ≠ 0 := by omega
    simp [four, hundred, cycle]
    omega

theorem daysBeforeYear_mono {first second : Nat} (positive : 1 ≤ first) (le : first ≤ second) :
    daysBeforeYear first ≤ daysBeforeYear second := by
  induction second, le using Nat.le_induction with
  | base => exact Nat.le_refl _
  | succ later le ih =>
    rw [daysBeforeYear_succ (positive.trans le)]
    omega

/-- The month of a day of the year, and the day in it. -/
theorem monthOf_spec (lengths : List Nat) (month day : Nat) (within : day < lengths.sum) :
    ∃ k, ∃ bound : k < lengths.length, (monthOf lengths month day).1 = month + k ∧
      (monthOf lengths month day).2 < lengths[k] ∧
      (lengths.take k).sum + (monthOf lengths month day).2 = day := by
  induction lengths generalizing month day with
  | nil => simp at within
  | cons length rest ih =>
    unfold monthOf
    split
    · exact ⟨0, by simp, rfl, ‹_›, by simp⟩
    · rw [List.sum_cons] at within
      obtain ⟨k, bound, named, counted, sum⟩ := ih (month + 1) (day - length) (by omega)
      refine ⟨k + 1, by simpa using bound, by omega, by simpa using counted, ?_⟩
      rw [List.take_succ_cons, List.sum_cons]
      omega

theorem daysBeforeMonth_eq (year month : Nat) :
    daysBeforeMonth year month = ((monthLengths year).take (month - 1)).sum :=
  List.sum_eq_foldl_nat.symm

/-- The mean length of a year misses the year of a day by at most one. -/
theorem guess_spec {days guess : Nat} (mean : guess = days * 400 / 146097 + 1) :
    daysBeforeYear (guess - 1) ≤ days ∧ days < daysBeforeYear (guess + 2) ∧
      (guess = 1 → daysBeforeYear guess ≤ days) := by
  simp only [daysBeforeYear]
  omega

/-- The year of a day. -/
theorem year_of_days (days : Nat) :
    1 ≤ (Date.ofDays days).year ∧ daysBeforeYear (Date.ofDays days).year ≤ days ∧
      days < daysBeforeYear ((Date.ofDays days).year + 1) := by
  obtain ⟨guess, mean⟩ : ∃ guess, guess = days * 400 / 146097 + 1 := ⟨_, rfl⟩
  obtain ⟨low, high, first⟩ := guess_spec mean
  have year : (Date.ofDays days).year = if daysBeforeYear guess ≤ days then
      if daysBeforeYear (guess + 1) ≤ days then guess + 1 else guess else guess - 1 := by rw [mean]; rfl
  rw [year]
  split
  · split
    · exact ⟨by omega, ‹_›, high⟩
    · exact ⟨by omega, ‹_›, by omega⟩
  · rw [Nat.sub_add_cancel (by omega)]
    exact ⟨by omega, low, by omega⟩

/-- Naming a day by its date loses nothing. -/
theorem toDays_ofDays (days : Nat) : (Date.ofDays days).toDays = days := by
  obtain ⟨positive, low, high⟩ := year_of_days days
  rw [daysBeforeYear_succ positive] at high
  obtain ⟨k, -, month, -, sum⟩ := monthOf_spec (monthLengths (Date.ofDays days).year) 1
    (days - daysBeforeYear (Date.ofDays days).year) (by omega)
  have named : (Date.ofDays days).month = 1 + k := month
  have counted : (Date.ofDays days).day =
      (monthOf (monthLengths (Date.ofDays days).year) 1 (days - daysBeforeYear (Date.ofDays days).year)).2 + 1 := rfl
  rw [Date.toDays, daysBeforeMonth_eq, named, counted, Nat.add_sub_cancel_left]
  omega

/-- A day of the years 1 to 9999 has a valid date. -/
theorem isValid_ofDays {days : Nat} (calendar : days < daysBeforeYear 10000) : (Date.ofDays days).isValid = true := by
  obtain ⟨positive, low, high⟩ := year_of_days days
  have upTo : (Date.ofDays days).year ≤ 9999 := by
    by_contra late
    have := daysBeforeYear_mono (by omega) (show 10000 ≤ (Date.ofDays days).year by omega)
    omega
  rw [daysBeforeYear_succ positive] at high
  obtain ⟨k, bound, month, counted, -⟩ := monthOf_spec (monthLengths (Date.ofDays days).year) 1
    (days - daysBeforeYear (Date.ofDays days).year) (by omega)
  have named : (Date.ofDays days).month = 1 + k := month
  have length : monthLength (Date.ofDays days).year (Date.ofDays days).month =
      (monthLengths (Date.ofDays days).year)[k] := by
    rw [monthLength, named, if_neg (by omega), Nat.add_sub_cancel_left, List.getD_eq_getElem _ _ bound]
  have inMonth : (Date.ofDays days).day ≤ monthLength (Date.ofDays days).year (Date.ofDays days).month := by
    rw [length]
    exact counted
  have first : 1 ≤ (Date.ofDays days).day := Nat.le_add_left ..
  simp [Date.isValid, positive, upTo, first, inMonth]

/-- A year has at most twelve months, and a month at most 31 days. -/
theorem monthLength_le (year month : Nat) :
    monthLength year month ≤ 31 ∧ (12 < month → monthLength year month = 0) := by
  have lengths : ∀ n ∈ monthLengths year, n ≤ 31 := by
    unfold monthLengths
    split <;> simp
  have twelve : (monthLengths year).length = 12 := rfl
  unfold monthLength
  split
  · exact ⟨by omega, fun _ => rfl⟩
  · by_cases named : month - 1 < (monthLengths year).length
    · rw [List.getD_eq_getElem _ _ named]
      exact ⟨lengths _ (List.getElem_mem _), fun late => by omega⟩
    · rw [List.getD_eq_default _ _ (by omega)]
      exact ⟨by omega, fun _ => rfl⟩

/-- The numbers of a valid date have as many digits as are written. -/
theorem parts_of_valid {d : Date} (valid : d.isValid = true) : d.year < 10 ^ 4 ∧ d.month < 10 ^ 2 ∧ d.day < 10 ^ 2 := by
  simp only [Date.isValid, Bool.and_eq_true, decide_eq_true_eq] at valid
  obtain ⟨⟨⟨-, years⟩, first⟩, last⟩ := valid
  obtain ⟨short, none⟩ := monthLength_le d.year d.month
  have months : d.month ≤ 12 := by
    by_contra late
    have := none (by omega)
    omega
  omega

/-- A valid date lies in the years 1 to 9999. -/
theorem toDays_lt {d : Date} (valid : d.isValid = true) : d.toDays < daysBeforeYear 10000 := by
  simp only [Date.isValid, Bool.and_eq_true, decide_eq_true_eq] at valid
  obtain ⟨⟨⟨positive, years⟩, first⟩, last⟩ := valid
  have later := daysBeforeYear_mono (Nat.le_add_left 1 d.year) (show d.year + 1 ≤ 10000 by omega)
  rw [daysBeforeYear_succ positive] at later
  have inYear : daysBeforeMonth d.year d.month + monthLength d.year d.month ≤ (monthLengths d.year).sum := by
    have whole : ((monthLengths d.year).take (d.month - 1)).sum + ((monthLengths d.year).drop (d.month - 1)).sum =
        (monthLengths d.year).sum := by rw [← List.sum_append, List.take_append_drop]
    rw [daysBeforeMonth_eq, monthLength, ← whole]
    apply Nat.add_le_add_left
    split
    · exact Nat.zero_le _
    · by_cases named : d.month - 1 < (monthLengths d.year).length
      · rw [List.getD_eq_getElem _ _ named, List.drop_eq_getElem_cons named, List.sum_cons]
        omega
      · rw [List.getD_eq_default _ _ (by omega)]
        exact Nat.zero_le _
  rw [Date.toDays]
  omega

/-- The readings of a clock that the calendar can name. -/
theorem inCalendar_iff {wall : Int} : inCalendar wall = true ↔
    0 ≤ wall ∧ (wall / dayLength).toNat < daysBeforeYear 10000 := by
  have value : daysBeforeYear 10000 = 3652059 := by decide
  simp only [inCalendar, wallEnd, value, Bool.and_eq_true, decide_eq_true_eq, dayLength, second]
  omega

/-- A reading is given back by its date and its time of day. -/
theorem ofParts_eq {t : Instant} (calendar : inCalendar t.wall = true) (offset : Option Int) :
    ofParts t.date t.hour t.minute t.seconds t.micros offset = ⟨t.wall, offset⟩ := by
  have positive := (inCalendar_iff.mp calendar).1
  have days : t.date.toDays = (t.wall / dayLength).toNat := toDays_ofDays _
  simp only [ofParts, days, hour, minute, seconds, micros, dayTime, dayLength, second, mk.injEq, and_true]
  omega

/-- A valid date and a time of day make a reading that the calendar can name. -/
theorem inCalendar_ofParts {date : Date} (valid : date.isValid = true) {hour minute second' micro : Nat}
    (hours : hour ≤ 23) (minutes : minute ≤ 59) (seconds : second' ≤ 59) (micros : micro < 10 ^ 6) (offset : Option Int) :
    inCalendar (ofParts date hour minute second' micro offset).wall = true := by
  have days := toDays_lt valid
  rw [inCalendar_iff]
  simp only [ofParts, dayLength, second]
  omega

end TriggerFlow.Instant
