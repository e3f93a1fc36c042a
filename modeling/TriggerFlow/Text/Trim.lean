import TriggerFlow.Text.Class

/-!
Trimming, cutting and joining of texts. The functions work on lists of characters; the ones on
`String` only change the representation.
-/

namespace TriggerFlow.Text

/-- Drops the blanks at the front. -/
def trimFront (text : List Char) : List Char := text.dropWhile isBlank

/-- Drops the blanks at both ends. -/
def trim (text : List Char) : List Char := (trimFront (trimFront text).reverse).reverse

/-- Drops the characters of the property `White_Space` at both ends, as numbers are trimmed. -/
def trimWhiteSpace (text : List Char) : List Char :=
  ((text.dropWhile isWhiteSpace).reverse.dropWhile isWhiteSpace).reverse

/-- The text without the blanks at its ends. -/
def strip (text : String) : String := String.ofList (trim text.toList)

/-- Whether a text holds nothing but blanks. -/
def isBlankText (text : String) : Bool := text.toList.all isBlank

/-- The pieces between the occurrences of a character, one more than there are occurrences. -/
def cut (separator : Char) : List Char → List (List Char)
  | [] => [[]]
  | c :: rest =>
    if c = separator then [] :: cut separator rest
    else match cut separator rest with
      | [] => [[c]]
      | piece :: pieces => (c :: piece) :: pieces

theorem cut_ne_nil (separator : Char) (text : List Char) : cut separator text ≠ [] := by
  cases text with
  | nil => simp [cut]
  | cons c rest =>
    unfold cut
    split
    · simp
    · split <;> simp

/-- The maximal runs of characters that are not blank. -/
def words (text : List Char) : List (List Char) :=
  let step (c : Char) (state : List Char × List (List Char)) : List Char × List (List Char) :=
    if isBlank c then ([], if state.1.isEmpty then state.2 else state.1 :: state.2)
    else (c :: state.1, state.2)
  let last := text.foldr step ([], [])
  if last.1.isEmpty then last.2 else last.1 :: last.2

/-- What stands before and after the first occurrence of a character. -/
def cutFirst? (separator : Char) : List Char → Option (List Char × List Char)
  | [] => none
  | c :: rest =>
    if c = separator then some ([], rest)
    else (cutFirst? separator rest).map fun parts => (c :: parts.1, parts.2)

/-- What stands before and after the last occurrence of a character. -/
def cutLast? (separator : Char) (text : List Char) : Option (List Char × List Char) :=
  (cutFirst? separator text.reverse).map fun parts => (parts.2.reverse, parts.1.reverse)

/-- Whether one text occurs inside another. -/
def isInfix (part : List Char) : List Char → Bool
  | [] => part.isEmpty
  | c :: rest => part.isPrefixOf (c :: rest) || isInfix part rest

/-- Lower case for the letters of ASCII; all else stays. -/
def lowerAscii (text : String) : String := String.ofList (text.toList.map Char.toLower)

/-- Upper case for the letters of ASCII; all else stays. -/
def upperAscii (text : String) : String := String.ofList (text.toList.map Char.toUpper)

/-- A number in decimal digits, filled with zeros on the left up to a width. -/
def padNat (width : Nat) (n : Nat) : String :=
  let digits := Nat.toDigits 10 n
  String.ofList (List.replicate (width - digits.length) '0' ++ digits)

/-- A number in lower-case hexadecimal digits, filled with zeros on the left up to a width. -/
def padHex (width : Nat) (n : Nat) : String :=
  let digits := Nat.toDigits 16 n
  String.ofList (List.replicate (width - digits.length) '0' ++ digits)

/-- The value of a hexadecimal digit. -/
def hexDigit? (c : Char) : Option Nat :=
  if '0' ≤ c ∧ c ≤ '9' then some (c.toNat - '0'.toNat)
  else if 'a' ≤ c ∧ c ≤ 'f' then some (c.toNat - 'a'.toNat + 10)
  else if 'A' ≤ c ∧ c ≤ 'F' then some (c.toNat - 'A'.toNat + 10)
  else none

end TriggerFlow.Text
