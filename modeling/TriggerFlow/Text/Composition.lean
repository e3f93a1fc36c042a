import TriggerFlow.Text.Table.Composition
import TriggerFlow.Text.Trim

/-!
Compatibility normalisation: every character is replaced by its decomposition, marks are put into the
order of their combining classes, and pairs that have a composed form are joined. The tables cover the
characters that identifiers may hold; Korean syllables follow a rule of arithmetic instead.
-/

namespace TriggerFlow.Text

/-- A hexadecimal number. -/
def ofHex (digits : List Char) : Nat :=
  digits.foldl (fun n c => 16 * n + (hexDigit? c).getD 0) 0

/-- What stands on both sides of a separator, read by `left` and `right`. -/
def entry {α β : Type} (separator : Char) (left : List Char → α) (right : List Char → β)
    (text : List Char) : α × β :=
  match cutFirst? separator text with
  | some parts => (left parts.1, right parts.2)
  | none => (left text, right [])

/-- The entries of a table. -/
def entries (lines : List String) : List (List Char) := lines.flatMap fun line => words line.toList

/-- The decompositions, by code point. -/
def decompositionTable : List (Nat × List Nat) :=
  (entries Table.decompositions).map (entry ':' ofHex fun codes => (cut '+' codes).map ofHex)

/-- The combining classes, by range of code points. -/
def classTable : List ((Nat × Nat) × Nat) :=
  (entries Table.combiningClasses).map (entry '=' (entry '-' ofHex ofHex) fun digits =>
    digits.foldl (fun n c => 10 * n + (c.toNat - '0'.toNat)) 0)

/-- The composed forms, by pair of code points. -/
def compositionTable : List ((Nat × Nat) × Nat) :=
  (entries Table.compositions).map (entry '=' (entry '+' ofHex ofHex) ofHex)

/-- The parts of a Korean syllable. -/
def syllableParts? (code : Nat) : Option (List Nat) :=
  if 0xac00 ≤ code ∧ code ≤ 0xd7a3 then
    let index := code - 0xac00
    let front := [0x1100 + index / 588, 0x1161 + index % 588 / 28]
    some (if index % 28 = 0 then front else front ++ [0x11a7 + index % 28])
  else none

/-- The full decomposition of a code point. -/
def decompose (code : Nat) : List Nat :=
  if code < 0x80 then [code]
  else match syllableParts? code with
    | some parts => parts
    | none => (decompositionTable.lookup code).getD [code]

def combiningClass (code : Nat) : Nat :=
  if code < 0x300 then 0
  else ((classTable.find? fun row => row.1.1 ≤ code && code ≤ row.1.2).map Prod.snd).getD 0

/-- Puts a mark before the marks of higher classes that end the reversed text. -/
def insertMark (mark : Nat) : List Nat → List Nat
  | [] => [mark]
  | code :: rest =>
    if combiningClass mark ≠ 0 ∧ combiningClass mark < combiningClass code then
      code :: insertMark mark rest
    else mark :: code :: rest

/-- The text with each run of marks in the order of their classes. -/
def orderMarks (codes : List Nat) : List Nat :=
  (codes.foldl (fun reversed code => insertMark code reversed) []).reverse

/-- The composed form of two code points. -/
def composePair? (first last : Nat) : Option Nat :=
  if 0x1100 ≤ first ∧ first ≤ 0x1112 ∧ 0x1161 ≤ last ∧ last ≤ 0x1175 then
    some (0xac00 + ((first - 0x1100) * 21 + (last - 0x1161)) * 28)
  else if 0xac00 ≤ first ∧ first ≤ 0xd7a3 ∧ (first - 0xac00) % 28 = 0 ∧
      0x11a8 ≤ last ∧ last ≤ 0x11c2 then
    some (first + (last - 0x11a7))
  else compositionTable.lookup (first, last)

/-- Joins marks to the last starter. `starter` is that starter with the reversed marks that stay
behind it; `lastClass` is the class of the last of them. -/
def composeFrom (starter : Option (Nat × List Nat)) (lastClass : Nat) : List Nat → List Nat
  | [] => match starter with
    | some (code, marks) => code :: marks.reverse
    | none => []
  | code :: rest =>
    let here := combiningClass code
    match starter with
    | none => if here = 0 then composeFrom (some (code, [])) 0 rest
      else code :: composeFrom none 0 rest
    | some (first, marks) =>
      let blocked := !marks.isEmpty && (lastClass = 0 || here ≤ lastClass)
      match if blocked then none else composePair? first code with
      | some joined => composeFrom (some (joined, marks)) lastClass rest
      | none =>
        if here = 0 then first :: marks.reverse ++ composeFrom (some (code, [])) 0 rest
        else composeFrom (some (first, code :: marks)) here rest

/-- The composed compatibility form of a text. -/
def compatible (text : List Char) : List Char :=
  (composeFrom none 0 (orderMarks (text.flatMap fun c => decompose c.toNat))).map Char.ofNat

end TriggerFlow.Text
