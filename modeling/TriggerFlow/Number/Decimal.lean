import TriggerFlow.Number.Binary64
import TriggerFlow.Text.Trim

/-!
Decimal texts of binary numbers: the shortest digits that read back, a fixed count of significant
digits, and the reading of a decimal text with one rounding.
-/

namespace TriggerFlow.Decimal

open Binary64 (roundDiv)

/-- A positive decimal number `digits · 10 ^ exponent`. -/
structure Scaled where
  digits : Nat
  exponent : Int
  deriving DecidableEq, Repr

/-- A ratio of natural numbers times a power of ten, as a ratio. -/
def scaleRatio (num den : Nat) (power : Int) : Nat × Nat :=
  if 0 ≤ power then (num * tenTo power.toNat, den) else (num, den * tenTo (-power).toNat)

/-- The `k` with `10 ^ k ≤ num / den < 10 ^ (k + 1)`, for positive arguments. -/
def log10Ratio (num den : Nat) : Int :=
  let guess : Int := ((Nat.toDigits 10 num).length : Int) - (Nat.toDigits 10 den).length
  let scaled := scaleRatio num den (-guess)
  if scaled.2 ≤ scaled.1 then guess else guess - 1

/-- Moves the trailing zeros of the digits into the exponent; `fuel` bounds their number. -/
def Scaled.stripZeros : Nat → Scaled → Scaled
  | 0, s => s
  | fuel + 1, s =>
    if s.digits ≠ 0 ∧ s.digits % 10 = 0 then stripZeros fuel ⟨s.digits / 10, s.exponent + 1⟩ else s

/-- The number rounded to a count of significant digits, a tie going to the even digit. -/
def significant (count : Nat) (num den : Nat) : Scaled :=
  let exponent := log10Ratio num den - (count - 1)
  let scaled := scaleRatio num den (-exponent)
  ⟨roundDiv scaled.1 scaled.2, exponent⟩

/-- The interval of reals that round to a positive finite number, as numerators over one common
denominator: the lower end, the number, the upper end; the ends belong to it iff the significand is
even. -/
structure Interval where
  low : Nat
  middle : Nat
  high : Nat
  den : Nat
  closed : Bool

/-- The rounding interval of `significand · 2 ^ exponent`. Below a power of two the lower neighbour is
only half as far away. -/
def Interval.around (significand : Nat) (exponent : Int) : Interval :=
  let low := if significand = twoTo 52 ∧ -1074 < exponent then 4 * significand - 1 else 4 * significand - 2
  let scale := exponent - 2
  let up := if 0 ≤ scale then twoTo scale.toNat else 1
  let den := if 0 ≤ scale then 1 else twoTo (-scale).toNat
  ⟨low * up, 4 * significand * up, (4 * significand + 2) * up, den, significand % 2 = 0⟩

/-- Whether the decimal number `digits · 10 ^ exponent` lies in the interval. -/
def Interval.holds (i : Interval) (s : Scaled) : Bool :=
  let point := scaleRatio s.digits 1 s.exponent
  let value := point.1 * i.den
  let low := i.low * point.2
  let high := i.high * point.2
  if i.closed then low ≤ value && value ≤ high else low < value && value < high

/-- The point of the grid `10 ^ exponent` nearest to the number, among its two neighbours there, that
lies in the interval. -/
def Interval.onGrid (i : Interval) (exponent : Int) : Option Scaled :=
  let scaled := scaleRatio i.middle i.den (-exponent)
  let below : Scaled := ⟨scaled.1 / scaled.2, exponent⟩
  let above : Scaled := ⟨below.digits + 1, exponent⟩
  let rest := scaled.1 % scaled.2
  let belowFirst := 2 * rest < scaled.2 ∨ (2 * rest = scaled.2 ∧ below.digits % 2 = 0)
  let order := if belowFirst then [below, above] else [above, below]
  order.find? fun s => s.digits ≠ 0 && i.holds s

/-- The fewest digits that read back, searched on finer and finer grids. -/
def shortest (significand : Nat) (exponent : Int) : Scaled :=
  let i := Interval.around significand exponent
  let top := log10Ratio i.middle i.den
  let grids := (List.range 17).map fun (k : Nat) => top - k
  match grids.findSome? i.onGrid with
  | some s => s.stripZeros 20
  | none => ⟨i.middle / i.den, 0⟩

/-- How a layout writes a number: which decimal points it keeps in place, whether a whole number
keeps `.0`, and the texts of the special values. -/
structure Layout where
  /-- Positional iff the point stands after at least this many places … -/
  pointLow : Int
  /-- … and at most this many. -/
  pointHigh : Int
  wholeMark : Bool
  nan : String
  infinity : String

/-- Numbers in data and messages: positional from `0.0001` up to below `10 ^ 16`, and a whole number
shows that it is no integer. -/
def Layout.plain : Layout := ⟨-3, 16, true, "nan", "inf"⟩

/-- Numbers in JSON text: as in messages, but for the special values. -/
def Layout.json : Layout := ⟨-3, 16, true, "NaN", "Infinity"⟩

/-- Durations in messages, of at most six digits: positional from `0.0001` up to below `10 ^ 6`. -/
def Layout.compact : Layout := ⟨-3, 6, false, "nan", "inf"⟩

/-- Digits with the decimal point after `point` of them, in the positional form. -/
def positional (layout : Layout) (digits : List Char) (point : Int) : List Char :=
  if point ≤ 0 then ['0', '.'] ++ List.replicate (-point).toNat '0' ++ digits
  else
    let whole := digits.take point.toNat ++ List.replicate (point.toNat - digits.length) '0'
    match digits.drop point.toNat with
    | [] => if layout.wholeMark then whole ++ ['.', '0'] else whole
    | fraction => whole ++ '.' :: fraction

/-- Digits with one of them before the decimal point, and an exponent of at least two digits. -/
def scientific (digits : List Char) (point : Int) : List Char :=
  let exponent := point - 1
  let mantissa := match digits with
    | [] => ['0']
    | [d] => [d]
    | d :: rest => d :: '.' :: rest
  let sign := if exponent < 0 then '-' else '+'
  mantissa ++ 'e' :: sign :: (Text.padNat 2 exponent.natAbs).toList

/-- A positive decimal number in a layout. -/
def layOut (layout : Layout) (s : Scaled) : List Char :=
  let digits := Nat.toDigits 10 s.digits
  let point : Int := digits.length + s.exponent
  if layout.pointLow ≤ point ∧ point ≤ layout.pointHigh then positional layout digits point
  else scientific digits point

/-- A number in a layout, its digits chosen by `choose`. -/
def render (layout : Layout) (choose : Nat → Int → Scaled) (x : Binary64) : String :=
  match x.shape with
  | .nan => layout.nan
  | .infinite negative => (if negative then "-" else "") ++ layout.infinity
  | .finite negative 0 _ =>
    (if negative then "-" else "") ++ (if layout.wholeMark then "0.0" else "0")
  | .finite negative significand exponent =>
    (if negative then "-" else "") ++ String.ofList (layOut layout (choose significand exponent))

/-- The shortest text that reads back, as data and messages write it. -/
def text (x : Binary64) : String := render .plain shortest x

/-- The shortest text that reads back, as JSON text writes it. -/
def jsonText (x : Binary64) : String := render .json shortest x

/-- At most six significant digits. -/
def compactText (x : Binary64) : String :=
  render .compact (fun significand exponent =>
    let up := if 0 ≤ exponent then twoTo exponent.toNat else 1
    let den := if 0 ≤ exponent then 1 else twoTo (-exponent).toNat
    (significant 6 (significand * up) den).stripZeros 10) x

/-- The number nearest to `± digits · 10 ^ exponent`. Beyond the range of the format the answer is
known from the count of digits alone. -/
def nearest (negative : Bool) (digits : Nat) (exponent : Int) : Binary64 :=
  if digits = 0 then .zero negative
  else
    let point : Int := (Nat.toDigits 10 digits).length + exponent
    if 310 < point then .infinity negative
    else if point < -330 then .zero negative
    else
      let ratio := scaleRatio digits 1 exponent
      .ofRatio negative ratio.1 ratio.2

/-- Reads decimal digits to a number, the first being the most significant. -/
def ofDigits (digits : List Char) : Nat :=
  digits.foldl (fun n c => 10 * n + (c.toNat - '0'.toNat)) 0

/-- A run of ASCII digits in front, and what follows it. -/
def digitRun (text : List Char) : List Char × List Char :=
  (text.takeWhile Char.isDigit, text.dropWhile Char.isDigit)

/-- A sign in front, if there is one: whether it is a minus, and what follows it. -/
def signed (text : List Char) : Bool × List Char :=
  match text with
  | '-' :: rest => (true, rest)
  | '+' :: rest => (false, rest)
  | _ => (false, text)

/-- The exponent part that ends a number, if the rest is nothing else. -/
def exponent? (text : List Char) : Option Int :=
  match text with
  | [] => some 0
  | c :: rest =>
    if c = 'e' ∨ c = 'E' then
      let (negative, rest) := signed rest
      let (digits, rest) := digitRun rest
      if digits.isEmpty || !rest.isEmpty then none
      else some (if negative then -(ofDigits digits : Int) else ofDigits digits)
    else none

/-- Reads an unsigned decimal number without blanks: digits with a point among, before or after them,
and an exponent. -/
def unsigned? (negative : Bool) (text : List Char) : Option Binary64 := do
  let (whole, rest) := digitRun text
  let (fraction, rest) := match rest with
    | '.' :: rest => digitRun rest
    | _ => ([], rest)
  if whole.isEmpty && fraction.isEmpty then none
  else
    let exponent ← exponent? rest
    pure (nearest negative (ofDigits (whole ++ fraction)) (exponent - fraction.length))

/-- Reads a signed decimal number, an infinity or a NaN, in any case and without blanks. -/
def read? (text : List Char) : Option Binary64 :=
  let (negative, rest) := signed text
  let word := String.ofList (rest.map Char.toLower)
  if word = "inf" ∨ word = "infinity" then some (.infinity negative)
  else if word = "nan" then some .nan
  else unsigned? negative rest

/-- Drops the underscores that stand between two digits; none if one stands elsewhere. -/
def dropUnderscores? : List Char → Option (List Char)
  | [] => some []
  | '_' :: _ => none
  | [c] => some [c]
  | c :: '_' :: d :: rest =>
    if c.isDigit && d.isDigit then (dropUnderscores? (d :: rest)).map (c :: ·) else none
  | c :: d :: rest => (dropUnderscores? (d :: rest)).map (c :: ·)

/-- Every decimal digit of another script becomes the ASCII digit of its value. -/
def plainDigits (text : List Char) : List Char :=
  text.map fun c => match Text.decimalDigit? c with
    | some value => Char.ofNat ('0'.toNat + value)
    | none => c

/-- Reads a number the way people write it into a field: blanks around it, digits of any script, and
underscores between digits. -/
def readLoose? (text : String) : Option Binary64 :=
  (dropUnderscores? (plainDigits (Text.trimWhiteSpace text.toList))).bind read?

/-- Reads an integer the same way, with a sign in front. -/
def readLooseInt? (text : String) : Option Int := do
  let (negative, digits) := signed (plainDigits (Text.trimWhiteSpace text.toList))
  let digits ← dropUnderscores? digits
  if digits.isEmpty || !digits.all Char.isDigit then none
  else pure (if negative then -(ofDigits digits : Int) else ofDigits digits)

end TriggerFlow.Decimal
