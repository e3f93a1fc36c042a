import TriggerFlow.Schedule

/-!
The text of a schedule: five columns for minute, hour, day of the month, month and day of the week, and
perhaps a sixth for the second and a seventh for the year. A column lists numbers, names, ranges and
steps; a range may run past the end of its column.
-/

namespace TriggerFlow.Schedule

open Text (words cut cutFirst?)

/-- A whole number in decimal digits of any script. -/
def number? (digits : List Char) : Option Nat :=
  if digits.isEmpty then none
  else digits.foldl (fun n c => match n, Text.decimalDigit? c with
    | some n, some d => some (10 * n + d)
    | _, _ => none) (some 0)

/-- The names that a column knows, each with its number. -/
def names : Column → List (String × Nat)
  | .month => [("jan", 1), ("feb", 2), ("mar", 3), ("apr", 4), ("may", 5), ("jun", 6), ("jul", 7),
      ("aug", 8), ("sep", 9), ("oct", 10), ("nov", 11), ("dec", 12)]
  | .weekday => [("sun", 0), ("mon", 1), ("tue", 2), ("wed", 3), ("thu", 4), ("fri", 5), ("sat", 6)]
  | _ => []

/-- A number or a name of a column. -/
def numeral? (c : Column) (text : List Char) : Option Nat :=
  match number? text with
  | some n => some n
  | none => (names c).lookup (String.ofList text)

/-- Numbers that stand for others: day 7 of the week for Sunday, and with a column of seconds day 0 of
the month for the first. -/
def resolve (c : Column) (columns n : Nat) : Nat :=
  if c = .weekday ∧ n = 7 ∧ columns = 5 then 0
  else if c = .day ∧ n = 0 ∧ columns = 6 then 1
  else n

/-- A range with its step. -/
structure Range where
  first : List Char
  last : List Char
  step : Nat

/-- Reads `first-last` or `first-last/step`. -/
def range? (text : List Char) : Option Range := do
  let (first, rest) ← cutFirst? '-' text
  let last := rest.takeWhile (· ≠ '/')
  if first.isEmpty || last.isEmpty || last.contains '-' then none
  else match rest.drop last.length with
    | [] => some ⟨first, last, 1⟩
    | _ :: step => (number? step).map fun n => ⟨first, last, n⟩

/-- A step without a range runs from its start, or from the first value, to the last value. -/
def stepRange? (c : Column) (text : List Char) : Option Range := do
  let (first, step) ← Text.cutLast? '/' text
  if first.isEmpty || step.isEmpty then none
  else
    let high := (toString c.high).toList
    let whole := (toString c.low).toList
    (if first = ['*'] then range? (whole ++ '-' :: high ++ '/' :: step) else none).or
      (range? (first ++ '-' :: high ++ '/' :: step))

/-- The numbers from `first` on, by steps, up to a limit. -/
def stepped (first limit step : Nat) : List Nat :=
  if step = 0 ∨ limit < first then []
  else (List.range ((limit - first) / step + 1)).map fun k => first + k * step

/-- The numbers of a range. One that ends before it begins runs on from the start of the column, in
step; one that ends where it begins is the whole column. -/
def Range.values (c : Column) (first last step : Nat) : List Nat :=
  if last < first then
    let front := stepped first c.high step
    let reached := front.getLastD first
    let left := c.high - reached
    let skip := if c.size < reached - c.low + step ∧ left < step then step - left else 0
    front ++ stepped (c.low + skip) last step
  else if first = last then stepped c.low c.high step
  else stepped first last step

/-- The numbers that a range stands for, if they all lie in the column. -/
def Range.read? (c : Column) (columns : Nat) (r : Range) : Option (List Nat) := do
  let first ← numeral? c r.first
  let last ← numeral? c (if c = .day ∧ r.last = ['l'] then ['3', '1'] else r.last)
  let first := resolve c columns first
  let last := resolve c columns last
  if c.high < max first last ∨ r.step = 0 then none
  else
    let values := Range.values c first last r.step
    if values.all fun n => c.low ≤ n && n ≤ c.high then some values else none

/-- A day of the week with an occurrence: `day#count`, or `l` and the day for the last one. -/
def occurrence? (text : List Char) : Option (List Char × Occurrence) :=
  match cutFirst? '#' text with
  | some (days, count) => do
    let n ← number? count
    let isName (part : List Char) :=
      ((names .weekday).lookup (String.ofList part)).isSome
    let isDays := match cutFirst? '-' days with
      | some (first, last) => isName first && isName last
      | none => !days.isEmpty && days.all fun c => c.isAlphanum || c = '_' || Text.isAnyDigit c
    if isDays && 1 ≤ n && n ≤ 5 then some (days, .nth n) else none
  | none =>
    match text with
    | 'l' :: day => (number? day).map fun _ => (day, .last)
    | _ => none

/-- The marks of a list item, and whether they are occurrences. -/
structure Item where
  marks : List Mark
  occurrence : Option Occurrence

/-- An item that holds no occurrence. -/
def plainItem? (c : Column) (columns : Nat) (text : List Char) : Option (List Mark) :=
  match (if (cutFirst? '/' text).isSome && text.head? = some '*' then stepRange? c text
      else (range? text).or (stepRange? c text)) with
  | some r => (r.read? c columns).map fun values => values.map .value
  | none =>
    if text = ['*'] then some [.every]
    else if c = .day ∧ text = ['l'] then some [.lastDay]
    else do
      let n := resolve c columns (← numeral? c text)
      if c.low ≤ n ∧ n ≤ c.high then some [.value n] else none

/-- An item of a column's list. -/
def item? (c : Column) (columns : Nat) (text : List Char) : Option Item :=
  match (if c = .weekday then occurrence? text else none) with
  | some (days, o) => (plainItem? c columns days).map fun marks => ⟨marks, some o⟩
  | none => (plainItem? c columns text).map fun marks => ⟨marks, none⟩

/-- A value left to chance is the first one of its column or range. -/
def drawn? (c : Column) (text : List Char) : Option (List Char) :=
  let write (n : Nat) := (toString n).toList
  let bounded (low high : Nat) (rest : List Char) : Option (List Char) :=
    match rest with
    | [] => some (write low)
    | '/' :: step =>
      match number? step with
      | some n => if n = 0 then none else some (write low ++ '-' :: write high ++ '/' :: write n)
      | none => some text
    | _ => some text
  match text with
  | 'r' :: '(' :: rest =>
    match cutFirst? ')' rest with
    | none => some text
    | some (inside, rest) =>
      match (cutFirst? '-' inside).bind fun p => (number? p.1).bind fun a => (number? p.2).map (a, ·) with
      | some (low, high) => if high ≤ low then none else bounded low high rest
      | none => some text
  | 'r' :: rest => bounded c.low c.high rest
  | _ => some text

/-- The items of a column. A question mark stands for no restriction of a kind of day. -/
def items? (c : Column) (columns : Nat) (text : List Char) : Option (List Item) := do
  let text ← drawn? c text
  let text ← if text.contains '?' then
      if text = ['?'] ∧ (c = .day ∨ c = .weekday) then some ['*'] else none
    else some text
  (cut ',' text).mapM (item? c columns)

/-- The distinct marks of the items. A full column counts as unrestricted, but one kind of day only if
the other kind is written with a star. -/
def marksOf (c : Column) (items : List Item) (otherHasStar : Bool) : List Mark :=
  let marks := (items.flatMap Item.marks).eraseDups
  if marks.length = c.size ∧ (otherHasStar ∨ (c ≠ .day ∧ c ≠ .weekday)) then [.every] else marks

/-- Schedules by name. -/
def alias? (text : String) : Option String :=
  [("@midnight", "0 0 * * *"), ("@hourly", "0 * * * *"), ("@daily", "0 0 * * *"),
    ("@weekly", "0 0 * * 0"), ("@monthly", "0 0 1 * *"), ("@yearly", "0 0 1 1 *"),
    ("@annually", "0 0 1 1 *")].lookup text

/-- Reads a schedule. -/
def read? (text : String) : Option Schedule := do
  let lower := Text.lowerAscii text
  let parts := words ((alias? lower).getD lower).toList
  let columns := parts.length
  if columns < 5 ∨ 7 < columns then none
  else
    let table ← (Column.all.zip parts).mapM fun (c, part) => do
      let items ← items? c columns part
      pure (c, part, items)
    let items (c : Column) : List Item := match table.find? fun row => row.1 = c with
      | some row => row.2.2
      | none => [⟨[.every], none⟩]
    let hasStar (c : Column) : Bool := table.any fun row => row.1 = c && row.2.1.contains '*'
    let marks (c : Column) : List Mark :=
      marksOf c (items c) (hasStar (if c = .day then .weekday else .day))
    let occurrences := (items .weekday).flatMap fun item => match item.occurrence with
      | some o => item.marks.filterMap fun mark => match mark with
        | .value n => some (n, o)
        | _ => none
      | none => []
    let plain := (marks .weekday).any fun mark => match mark with
      | .value n => !occurrences.any fun o => o.1 = n
      | _ => false
    if !occurrences.isEmpty && plain && (marks .weekday).length ≠ Column.weekday.size then none
    else some ⟨fun c => ⟨marks c⟩, occurrences⟩

/-- Whether a text is a schedule. -/
def isValid (text : String) : Bool := (read? text).isSome

end TriggerFlow.Schedule
