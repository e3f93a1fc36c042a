/-!
Binary floating-point numbers of 64 bits, kept as their bits. Every operation is exact arithmetic on
integers followed by one rounding to nearest, ties to even, so nothing here depends on the machine's
own floating-point unit.
-/

namespace TriggerFlow

/-! ### Powers of the two bases that numbers are written in -/

/-- A power of two. -/
def twoTo (n : Nat) : Nat := Nat.pow 2 n

/-- A power of ten. -/
def tenTo (n : Nat) : Nat := Nat.pow 10 n

/-! ### Numbers and their bits -/

/-- A number of the IEEE 754 format with 53 significant bits. -/
structure Binary64 where
  bits : UInt64
  deriving DecidableEq, Inhabited, Repr

namespace Binary64

/-- What the bits mean. A finite number is `± significand · 2 ^ exponent`. -/
inductive Shape where
  | nan
  | infinite (negative : Bool)
  | finite (negative : Bool) (significand : Nat) (exponent : Int)
  deriving DecidableEq, Repr

/-- Decodes the sign, the exponent field and the fraction. -/
def shape (x : Binary64) : Shape :=
  let code := x.bits.toNat
  let negative := decide (twoTo 63 ≤ code)
  let field : Nat := code / twoTo 52 % 2048
  let fraction : Nat := code % twoTo 52
  if field = 2047 then if fraction = 0 then .infinite negative else .nan
  else if field = 0 then .finite negative fraction (-1074)
  else .finite negative (fraction + twoTo 52) ((field : Int) - 1075)

/-- A magnitude of at most 63 bits with a sign before it. -/
def ofCode (negative : Bool) (code : Nat) : Binary64 :=
  ⟨UInt64.ofNat (if negative then code + twoTo 63 else code)⟩

def infinity (negative : Bool) : Binary64 := ofCode negative (2047 * twoTo 52)

def nan : Binary64 := ofCode false (2047 * twoTo 52 + twoTo 51)

def zero (negative : Bool) : Binary64 := ofCode negative 0

/-- The quotient rounded to the nearest integer, a tie going to the even one. -/
def roundDiv (num den : Nat) : Nat :=
  let quotient := num / den
  let rest := num % den
  if den < 2 * rest ∨ (2 * rest = den ∧ quotient % 2 = 1) then quotient + 1 else quotient

/-- The `k` with `2 ^ k ≤ num / den < 2 ^ (k + 1)`, for positive arguments. -/
def log2Ratio (num den : Nat) : Int :=
  let guess : Int := (num.log2 : Int) - den.log2
  let reaches := if 0 ≤ guess then den * twoTo guess.toNat ≤ num else den ≤ num * twoTo (-guess).toNat
  if reaches then guess else guess - 1

/-- The number nearest to `± num / den`. The significand is rounded on the grid of the result's own
binade; adding it to the exponent field lets a carry reach the next binade by itself. -/
def ofRatio (negative : Bool) (num den : Nat) : Binary64 :=
  if num = 0 then zero negative
  else
    let exponent := max (-1074) (log2Ratio num den - 52)
    let significand :=
      if 0 ≤ exponent then roundDiv num (den * twoTo exponent.toNat)
      else roundDiv (num * twoTo (-exponent).toNat) den
    ofCode negative (min ((exponent + 1074).toNat * twoTo 52 + significand) (2047 * twoTo 52))

/-- The number nearest to `± significand · 2 ^ exponent`. -/
def ofScaled (negative : Bool) (significand : Nat) (exponent : Int) : Binary64 :=
  if 0 ≤ exponent then ofRatio negative (significand * twoTo exponent.toNat) 1
  else ofRatio negative significand (twoTo (-exponent).toNat)

/-- The number nearest to an integer; infinite if the integer is out of range. -/
def ofIntRounded (n : Int) : Binary64 := ofRatio (decide (n < 0)) n.natAbs 1

def isFinite (x : Binary64) : Bool :=
  match x.shape with
  | .finite .. => true
  | _ => false

def isNaN (x : Binary64) : Bool := x.shape = .nan

/-- The number nearest to an integer, if there is one in range. -/
def ofInt? (n : Int) : Option Binary64 :=
  let x := ofIntRounded n
  if x.isFinite then some x else none

def neg (x : Binary64) : Binary64 :=
  if x.bits.toNat < twoTo 63 then ⟨UInt64.ofNat (x.bits.toNat + twoTo 63)⟩
  else ⟨UInt64.ofNat (x.bits.toNat - twoTo 63)⟩

instance : Neg Binary64 := ⟨neg⟩

/-- Zero of either sign. -/
def isZero (x : Binary64) : Bool :=
  match x.shape with
  | .finite _ 0 _ => true
  | _ => false

/-- A point of the extended number line, where integers and binary numbers are compared exactly:
`± significand · 2 ^ exponent`, or one of the ends. -/
inductive Point where
  | bottom
  | scaled (significand : Int) (exponent : Int)
  | top
  deriving DecidableEq, Repr

/-- The place of a number on the line; there is none for a NaN. -/
def point? (x : Binary64) : Option Point :=
  match x.shape with
  | .nan => none
  | .infinite true => some .bottom
  | .infinite false => some .top
  | .finite negative significand exponent =>
    some (.scaled (if negative then -(significand : Int) else significand) exponent)

/-- The exact order of two points. -/
def Point.compare : Point → Point → Ordering
  | .bottom, .bottom => .eq
  | .bottom, _ => .lt
  | _, .bottom => .gt
  | .top, .top => .eq
  | .top, _ => .gt
  | _, .top => .lt
  | .scaled a p, .scaled b q =>
    let low := min p q
    Ord.compare (a * twoTo (p - low).toNat) (b * twoTo (q - low).toNat)

/-- The order of two numbers; none if one of them is a NaN. -/
def compare? (x y : Binary64) : Option Ordering :=
  match x.point?, y.point? with
  | some p, some q => some (p.compare q)
  | _, _ => none

/-- Division by a positive integer. -/
def divNat (x : Binary64) (n : Nat) : Binary64 :=
  match x.shape with
  | .finite negative significand exponent =>
    if 0 ≤ exponent then ofRatio negative (significand * twoTo exponent.toNat) n
    else ofRatio negative significand (n * twoTo (-exponent).toNat)
  | _ => x

/-- Multiplication by a positive integer. -/
def mulNat (x : Binary64) (n : Nat) : Binary64 :=
  match x.shape with
  | .finite negative significand exponent => ofScaled negative (significand * n) exponent
  | _ => x

/-- The integer part, cut toward zero, and the rest, which keeps the sign; none unless finite. -/
def split? (x : Binary64) : Option (Int × Binary64) :=
  match x.shape with
  | .finite negative significand exponent =>
    let whole := if 0 ≤ exponent then significand * twoTo exponent.toNat
      else significand / twoTo (-exponent).toNat
    let rest := if 0 ≤ exponent then 0 else significand % twoTo (-exponent).toNat
    some (if negative then -(whole : Int) else whole, ofScaled negative rest exponent)
  | _ => none

/-- The integer that a number is, if it is one. -/
def toInt? (x : Binary64) : Option Int :=
  match x.split? with
  | some (whole, rest) => if rest.isZero then some whole else none
  | none => none

/-- The integer nearest to a finite number, a tie going to the even one. -/
def round? (x : Binary64) : Option Int :=
  match x.shape with
  | .finite negative significand exponent =>
    let nearest := if 0 ≤ exponent then significand * twoTo exponent.toNat
      else roundDiv significand (twoTo (-exponent).toNat)
    some (if negative then -(nearest : Int) else nearest)
  | _ => none

end Binary64

end TriggerFlow
