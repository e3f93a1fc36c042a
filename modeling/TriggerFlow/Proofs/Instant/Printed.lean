import TriggerFlow.Instant.Printer
import TriggerFlow.Instant.Reader
import TriggerFlow.Proofs.Instant.Calendar
import TriggerFlow.Proofs.Number.Digits

/-!
# Reading a written point in time

The text of a point in time in a record reads back as that point, with its offset cut down to whole minutes. So
what is remembered in whole minutes survives being written.
-/

namespace TriggerFlow

namespace Instant

open Text (padNat)

/-- Numbers of so many digits read back. -/
theorem digits?_padNat {width n : Nat} (positive : 0 < width) (fits : n < 10 ^ width) (rest : List Char) :
    digits? width ((padNat width n).toList ++ rest) = some (n, rest) := by
  have length := Text.length_padNat positive fits
  have front : ((padNat width n).toList ++ rest).take width = (padNat width n).toList := by
    rw [List.take_append_of_le_length length.ge, List.take_of_length_le length.le]
  have back : ((padNat width n).toList ++ rest).drop width = rest := by
    rw [List.drop_append_of_le_length length.ge, List.drop_of_length_le length.le, List.nil_append]
  have digits : (padNat width n).toList.all Char.isDigit = true := List.all_eq_true.mpr fun _ => Text.isDigit_padNat
  rw [digits?, front, back, length, digits, Text.ofDigits_padNat]
  simp

/-- A valid date reads back. -/
theorem date?_text {d : Date} (valid : d.isValid = true) (rest : List Char) :
    date? (d.text.toList ++ rest) = some (d, rest) := by
  obtain ⟨year, month, day⟩ := parts_of_valid valid
  have dash (text : List Char) : oneOf? ['-'] ("-".toList ++ text) = some text := rfl
  simp only [date?, Date.text, String.toList_append, List.append_assoc, digits?_padNat (by decide) year, dash,
    digits?_padNat (by decide) month, digits?_padNat (by decide) day, Option.bind_eq_bind, Option.bind_some]
  exact if_pos valid

/-- What may follow a time of day: it does not go on with the number. -/
def EndsTime (text : List Char) : Prop := ∀ c ∈ text.head?, c.isDigit = false ∧ c ≠ '.' ∧ c ≠ ','

/-- The fraction of a second reads back. -/
theorem fraction?_text {micros : Nat} (fits : micros < 10 ^ 6) {rest : List Char} (ends : EndsTime rest) :
    fraction? ((if micros = 0 then "" else "." ++ padNat 6 micros).toList ++ rest) = some (micros, rest) := by
  split
  · cases rest with
    | nil => simp [fraction?, oneOf?, *]
    | cons c rest =>
      obtain ⟨-, point, comma⟩ := ends c rfl
      simp [fraction?, oneOf?, *]
  · have point (text : List Char) : oneOf? ['.', ','] (".".toList ++ text) = some text := rfl
    have stops : rest.takeWhile Char.isDigit = [] ∧ rest.dropWhile Char.isDigit = rest := by
      cases rest with
      | nil => exact ⟨rfl, rfl⟩
      | cons c rest => simp [(ends c rfl).1]
    have digits : ∀ c ∈ (padNat 6 micros).toList, c.isDigit = true := fun _ => Text.isDigit_padNat
    have length := Text.length_padNat (by decide) fits
    have some : (padNat 6 micros).toList.isEmpty = false := by
      rw [← Bool.not_eq_true, List.isEmpty_iff_length_eq_zero, length]
      decide
    simp only [fraction?, String.toList_append, List.append_assoc, point, Decimal.digitRun,
      List.takeWhile_append_of_pos digits, List.dropWhile_append_of_pos digits, stops, List.append_nil, some,
      Bool.false_eq_true, if_false]
    rw [List.take_append_of_le_length length.ge, List.take_of_length_le length.le, Text.ofDigits_padNat]

/-- An offset without its odd seconds. -/
def wholeMinutes (offset : Int) : Int := if offset < 0 then -(-offset / 60 * 60) else offset / 60 * 60

/-- The end of the text of a point in time. -/
def offsetEnd : Option Int → String
  | none => ""
  | some 0 => "Z"
  | some offset => recordOffset offset

theorem recordText_eq (t : Instant) : t.recordText = t.wallText ++ offsetEnd t.offset := by
  unfold recordText offsetEnd
  congr 1

/-- A signed difference in hours and minutes reads back. -/
theorem offset?_signed {mark : Char} {sign : Int} (signed : mark = '+' ∧ sign = 1 ∨ mark = '-' ∧ sign = -1)
    {hours minutes : Nat} (day : hours ≤ 23) (hour : minutes ≤ 59) :
    offset? (mark :: ((padNat 2 hours).toList ++ (":".toList ++ (padNat 2 minutes).toList))) =
      some (some (sign * ((hours * 3600 + minutes * 60 : Nat) : Int))) := by
  have colon (text : List Char) : oneOf? [':'] (':' :: text) = some text := rfl
  have first (text : List Char) : digits? 2 ((padNat 2 hours).toList ++ text) = some (hours, text) :=
    digits?_padNat (by decide) (by omega) text
  have last : digits? 2 (padNat 2 minutes).toList = some (minutes, []) := by
    simpa using digits?_padNat (by decide) (show minutes < 10 ^ 2 by omega) []
  rcases signed with ⟨rfl, rfl⟩ | ⟨rfl, rfl⟩ <;> simp [offset?, first, colon, last, day, hour]

/-- An offset of less than a day reads back, in whole minutes. -/
theorem offset?_end {offset : Option Int} (day : ∀ o ∈ offset, o.natAbs < 86400) :
    offset? (offsetEnd offset).toList = some (offset.map wholeMinutes) := by
  unfold offsetEnd
  split
  · rfl
  · rfl
  · rename_i offset nonzero
    have within : offset.natAbs < 86400 := day offset rfl
    have hours : offset.natAbs / 60 / 60 ≤ 23 := by omega
    have minutes : offset.natAbs / 60 % 60 ≤ 59 := by omega
    simp only [recordOffset, String.toList_append, List.append_assoc, Option.map_some, wholeMinutes]
    by_cases behind : offset < 0
    · rw [if_pos behind, if_pos behind]
      refine (offset?_signed (.inr ⟨rfl, rfl⟩) hours minutes).trans ?_
      simp only [Option.some.injEq]
      omega
    · rw [if_neg behind, if_neg behind]
      refine (offset?_signed (.inl ⟨rfl, rfl⟩) hours minutes).trans ?_
      simp only [Option.some.injEq]
      omega

theorem offsetEnd_ends (offset : Option Int) : EndsTime (offsetEnd offset).toList := by
  unfold offsetEnd EndsTime
  split
  · simp
  · simp
  · simp only [recordOffset, String.toList_append, List.append_assoc]
    split <;> simp

/-- A point in time as a record keeps it. -/
def recorded (t : Instant) : Instant := ⟨t.wall, t.offset.map wholeMinutes⟩

/-- A point in time that a clock can show: it lies in the calendar, and its offset is less than a day. -/
structure Shown (t : Instant) : Prop where
  calendar : inCalendar t.wall = true
  day : ∀ o ∈ t.offset, o.natAbs < 86400

/-- The text of a point in time in a record reads back. -/
theorem Shown.read?_recordText {t : Instant} (shown : t.Shown) : read? t.recordText = some t.recorded := by
  have valid : t.date.isValid = true := isValid_ofDays (inCalendar_iff.mp shown.calendar).2
  have hour : t.hour ≤ 23 := by simp only [Instant.hour, dayTime, dayLength, second]; omega
  have minute : t.minute ≤ 59 := by simp only [Instant.minute]; omega
  have seconds : t.seconds ≤ 59 := by simp only [Instant.seconds]; omega
  have micros : t.micros < 10 ^ 6 := by simp only [Instant.micros]; omega
  have mark (text : List Char) : oneOf? ['T', 't', ' ', '_'] ("T".toList ++ text) = some text := rfl
  have colon (text : List Char) : oneOf? [':'] (":".toList ++ text) = some text := rfl
  have goesOn (text : List Char) : ("T".toList ++ text).isEmpty = false := rfl
  have parsed : ofDateText? t.recordText.toList = some t.recorded := by
    rw [recordText_eq]
    simp only [wallText, String.toList_append, List.append_assoc, ofDateText?, date?_text valid, goesOn, mark, colon,
      secondsPart?, digits?_padNat (by decide) (show t.hour < 10 ^ 2 by omega),
      digits?_padNat (by decide) (show t.minute < 10 ^ 2 by omega),
      digits?_padNat (by decide) (show t.seconds < 10 ^ 2 by omega),
      fraction?_text micros (offsetEnd_ends t.offset), offset?_end shown.day, Option.bind_eq_bind, Option.bind_some,
      Bool.false_eq_true, if_false, if_pos seconds, hour, minute, decide_true, Bool.and_self, if_true]
    rw [ofParts_eq shown.calendar]
    rfl
  rw [read?, parsed]

/-- The offset is known in whole minutes. -/
def InMinutes (t : Instant) : Prop := ∀ o ∈ t.offset, o % 60 = 0

/-- An offset in whole minutes is kept as it is. -/
theorem InMinutes.recorded_eq {t : Instant} (minutes : t.InMinutes) : t.recorded = t := by
  obtain ⟨wall, _ | offset⟩ := t
  · rfl
  · have : offset % 60 = 0 := minutes offset rfl
    simp only [recorded, wholeMinutes, Option.map_some, Instant.mk.injEq, Option.some.injEq, true_and]
    split <;> omega

/-- The start of a minute is shown by the clock that shows the minute. -/
theorem Shown.startOfMinute {t : Instant} (shown : t.Shown) : t.startOfMinute.Shown where
  calendar := by
    have within := shown.calendar
    rw [inCalendar, Bool.and_eq_true, decide_eq_true_eq, decide_eq_true_eq] at within ⊢
    change 0 ≤ t.wall - t.wall % 60000000 ∧ t.wall - t.wall % 60000000 < wallEnd
    omega
  day := shown.day

theorem lt_of_fraction? {text rest : List Char} {micros : Nat} (found : fraction? text = some (micros, rest)) :
    micros < 10 ^ 6 := by
  unfold fraction? at found
  split at found
  · cases found
    decide
  · rename_i rest' _
    rcases run : Decimal.digitRun rest' with ⟨front, after⟩
    have ran : front = rest'.takeWhile Char.isDigit := (congrArg Prod.fst run).symm
    rw [run] at found
    dsimp only at found
    split at found
    · cases found
    · cases found
      have digits : ∀ c ∈ (front ++ List.replicate 6 '0').take 6, c.isDigit = true := by
        intro c mem
        rcases List.mem_append.mp (List.mem_of_mem_take mem) with digit | zero
        · rw [ran] at digit
          exact List.all_eq_true.mp List.all_takeWhile c digit
        · rw [List.eq_of_mem_replicate zero]
          rfl
      refine (Decimal.ofDigits_lt digits).trans_le (Nat.pow_le_pow_right (by decide) ?_)
      exact List.length_take_le ..

theorem bounds_of_secondsPart? {text rest : List Char} {seconds micros : Nat}
    (found : secondsPart? text = some (seconds, micros, rest)) : seconds ≤ 59 ∧ micros < 10 ^ 6 := by
  unfold secondsPart? at found
  split at found
  · cases found
    decide
  · simp only [Option.bind_eq_bind, Option.bind_eq_some_iff] at found
    obtain ⟨⟨seconds, rest⟩, -, ⟨micros, rest⟩, fraction, found⟩ := found
    split at found
    · cases found
      exact ⟨‹_›, lt_of_fraction? fraction⟩
    · cases found

/-- What records hold: readings of a clock with its offset in whole minutes. -/
structure Written (t : Instant) : Prop extends Shown t where
  minutes : t.InMinutes

theorem difference_spec {sign : Int} (unit : sign = 1 ∨ sign = -1) {hours minutes : Nat} (day : hours ≤ 23)
    (hour : minutes ≤ 59) : (sign * ((hours * 3600 + minutes * 60 : Nat) : Int)).natAbs < 86400 ∧
      sign * ((hours * 3600 + minutes * 60 : Nat) : Int) % 60 = 0 := by
  rcases unit with rfl | rfl <;> omega

/-- What an offset reads as is less than a day, in whole minutes. -/
theorem offset?_spec {text : List Char} {offset : Option Int} (found : offset? text = some offset) :
    ∀ o ∈ offset, o.natAbs < 86400 ∧ o % 60 = 0 := by
  unfold offset? at found
  split at found
  · cases found
    simp
  · cases found
    simp
  · cases found
    simp
  · split at found
    on_goal 2 => split at found
    on_goal 3 => cases found
    all_goals
      simp only [Option.bind_eq_bind, Option.bind_some, Option.bind_eq_some_iff] at found
      obtain ⟨⟨hours, _⟩, -, ⟨minutes, _⟩, -, found⟩ := found
      split at found
      · rename_i bounds
        simp only [Bool.and_eq_true, decide_eq_true_eq] at bounds
        cases found
        rintro _ ⟨⟩
        exact difference_spec (by simp) bounds.1.2 bounds.2
      · cases found

theorem written_of_ofDateText? {text : List Char} {t : Instant} (found : ofDateText? text = some t) : t.Written := by
  simp only [ofDateText?, Option.bind_eq_bind, Option.bind_eq_some_iff] at found
  obtain ⟨⟨date, rest⟩, dated, found⟩ := found
  have valid : date.isValid = true := by
    simp only [date?, Option.bind_eq_bind, Option.bind_eq_some_iff] at dated
    obtain ⟨_, -, _, -, _, -, _, -, _, -, dated⟩ := dated
    split at dated
    · cases dated
      assumption
    · cases dated
  split at found
  · cases found
    exact ⟨⟨inCalendar_ofParts valid (by decide) (by decide) (by decide) (by decide) _, by simp [ofParts]⟩,
      by simp [InMinutes, ofParts]⟩
  · simp only [Option.bind_eq_some_iff] at found
    obtain ⟨_, -, ⟨hour, _⟩, -, _, -, ⟨minute, _⟩, -, ⟨seconds, micros, _⟩, counted, offset, ahead, found⟩ := found
    split at found
    · rename_i bounds
      simp only [Bool.and_eq_true, decide_eq_true_eq] at bounds
      obtain ⟨second, micro⟩ := bounds_of_secondsPart? counted
      cases found
      exact ⟨⟨inCalendar_ofParts valid bounds.1 bounds.2 second micro _, fun o mem => (offset?_spec ahead o mem).1⟩,
        fun o mem => (offset?_spec ahead o mem).2⟩
    · cases found

theorem written_of_ofEpoch? {micros : Int} {t : Instant} (found : ofEpoch? micros = some t) : t.Written := by
  simp only [ofEpoch?] at found
  split at found
  · rename_i bounds
    cases found
    simp only [Bool.and_eq_true, decide_eq_true_eq] at bounds
    refine ⟨⟨?_, by simp⟩, by simp [InMinutes]⟩
    simp only [inCalendar, Bool.and_eq_true, decide_eq_true_eq]
    have early : 0 ≤ ((Date.mk 1600 1 1).toDays : Int) * dayLength := by decide
    exact ⟨early.trans bounds.1, bounds.2⟩
  · cases found

theorem written_of_ofInt? {n : Int} {t : Instant} (found : ofInt? n = some t) : t.Written := by
  unfold ofInt? at found
  split at found <;> exact written_of_ofEpoch? found

theorem written_of_ofFloat? {x : Binary64} {t : Instant} (found : ofFloat? x = some t) : t.Written := by
  simp only [ofFloat?, Option.bind_eq_bind, Option.bind_eq_some_iff] at found
  obtain ⟨_, -, scaled, -, found⟩ := found
  exact written_of_ofEpoch? found

/-- Whatever reads as a point in time may stand in a record. -/
theorem written_of_read? {text : String} {t : Instant} (found : read? text = some t) : t.Written := by
  unfold read? at found
  dsimp only at found
  split at found
  · cases found
    exact written_of_ofDateText? ‹_›
  · split at found
    · exact written_of_ofInt? found
    · obtain ⟨x, -, found⟩ := Option.bind_eq_some_iff.mp found
      exact written_of_ofFloat? found

end Instant

end TriggerFlow
