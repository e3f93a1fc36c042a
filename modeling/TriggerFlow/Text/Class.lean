import TriggerFlow.Text.Table.Printable
import TriggerFlow.Text.Table.Identifier

/-!
Character classes. Core's own classes on characters know ASCII alone, so the classes that expressions,
paths and numbers need are defined here over the tables of code points.
-/

/-!
Digits of the scripts of the world (Unicode 14). Decimal digits come in runs of ten, so the code
point of each zero says it all; the other digits (superscripts, circled numbers) have no place value.
-/

namespace TriggerFlow.Text.Table

/-- The code points of the zeros; the nine code points after each are the digits one to nine. -/
def zeros : List Nat := [
  0x30, 0x660, 0x6f0, 0x7c0, 0x966, 0x9e6, 0xa66, 0xae6, 0xb66, 0xbe6, 0xc66, 0xce6, 0xd66, 0xde6,
  0xe50, 0xed0, 0xf20, 0x1040, 0x1090, 0x17e0, 0x1810, 0x1946, 0x19d0, 0x1a80, 0x1a90, 0x1b50,
  0x1bb0, 0x1c40, 0x1c50, 0xa620, 0xa8d0, 0xa900, 0xa9d0, 0xa9f0, 0xaa50, 0xabf0, 0xff10, 0x104a0,
  0x10d30, 0x11066, 0x110f0, 0x11136, 0x111d0, 0x112f0, 0x11450, 0x114d0, 0x11650, 0x116c0,
  0x11730, 0x118e0, 0x11950, 0x11c50, 0x11d50, 0x11da0, 0x16a60, 0x16ac0, 0x16b50, 0x1d7ce,
  0x1d7d8, 0x1d7e2, 0x1d7ec, 0x1d7f6, 0x1e140, 0x1e2f0, 0x1e950, 0x1fbf0]

/-- The closed ranges of digits without a place value. -/
def otherDigits : List (Nat × Nat) := [
  (0xb2, 0xb3), (0xb9, 0xb9), (0x1369, 0x1371), (0x19da, 0x19da), (0x2070, 0x2070),
  (0x2074, 0x2079), (0x2080, 0x2089), (0x2460, 0x2468), (0x2474, 0x247c), (0x2488, 0x2490),
  (0x24ea, 0x24ea), (0x24f5, 0x24fd), (0x24ff, 0x24ff), (0x2776, 0x277e), (0x2780, 0x2788),
  (0x278a, 0x2792), (0x10a40, 0x10a43), (0x10e60, 0x10e68), (0x11052, 0x1105a), (0x1f100, 0x1f10a)]

end TriggerFlow.Text.Table

namespace TriggerFlow.Text

/-- Whether a code point lies in one of the closed ranges. -/
def inRanges (ranges : List (Nat × Nat)) (code : Nat) : Bool :=
  ranges.any fun range => range.1 ≤ code && code ≤ range.2

/-- The white space that separates words and that trimming removes: the separators of Unicode, the
line ends, and the four information separators of ASCII. -/
def isBlank (c : Char) : Bool :=
  let code := c.toNat
  inRanges [(0x9, 0xd), (0x1c, 0x20)] code || code = 0x85 || code = 0xa0 || code = 0x1680 ||
    inRanges [(0x2000, 0x200a), (0x2028, 0x2029)] code || code = 0x202f || code = 0x205f ||
    code = 0x3000

/-- The white space of the Unicode property `White_Space`, which leaves the information separators
out. -/
def isWhiteSpace (c : Char) : Bool :=
  isBlank c && !inRanges [(0x1c, 0x1f)] c.toNat

/-- The value of a decimal digit of any script. -/
def decimalDigit? (c : Char) : Option Nat :=
  let code := c.toNat
  if code < 0x80 then if c.isDigit then some (code - 0x30) else none
  else (Table.zeros.find? fun base => base ≤ code && code < base + 10).map (code - ·)

/-- Digits of any kind, those without a place value included. -/
def isAnyDigit (c : Char) : Bool :=
  if c.toNat < 0x80 then c.isDigit
  else (decimalDigit? c).isSome || inRanges Table.otherDigits c.toNat

/-- Whether a character stands for itself in a quoted text. -/
def isPrintable (c : Char) : Bool :=
  if c.toNat < 0x80 then 0x20 ≤ c.toNat && c.toNat < 0x7f
  else !inRanges Table.unprintable c.toNat

/-- Whether a character may begin an identifier. -/
def isIdentifierStart (c : Char) : Bool :=
  if c.toNat < 0x80 then c.isAlpha || c = '_'
  else inRanges Table.identifierStart c.toNat

/-- Whether a character may continue an identifier. -/
def isIdentifierContinue (c : Char) : Bool :=
  if c.toNat < 0x80 then c.isAlphanum || c = '_'
  else inRanges Table.identifierStart c.toNat || inRanges Table.identifierContinueOnly c.toNat

/-- An identifier begins with a beginning and goes on with continuations. -/
def isIdentifier : List Char → Bool
  | [] => false
  | c :: rest => isIdentifierStart c && rest.all isIdentifierContinue

end TriggerFlow.Text
