import TriggerFlow.Proofs.Json.Number
import TriggerFlow.Proofs.Json.Plain
import TriggerFlow.Proofs.Store

/-!
# Reading printed data

The printed form of a datum, on one line or with a line for each part, is read as the datum is reread: piece by piece,
whatever comes after it, unless an integer in it is too long to be read. A plain datum is read back as it is. On one
line there is no control character.
-/

namespace TriggerFlow.Json

open Reader

/-- The numbers below the blank in four hexadecimal digits. -/
theorem padHex_four : ∀ n < 32,
    (Text.padHex 4 n).toList = ['0', '0', Nat.digitChar (n / 16), Nat.digitChar (n % 16)] := by
  decide

theorem hex4?_padHex {n : Nat} (small : n < 32) (rest : List Char) :
    hex4? ((Text.padHex 4 n).toList ++ rest) = some (n, rest) := by
  have zero : Text.hexDigit? '0' = some 0 := by decide
  have high := Text.hexDigit?_digitChar (n / 16) (by omega)
  have low := Text.hexDigit?_digitChar (n % 16) (by omega)
  rw [padHex_four n small]
  simp only [List.cons_append, List.nil_append, hex4?, zero, high, low, Option.bind_eq_bind, Option.bind_some,
    Option.pure_def, Option.some.injEq, Prod.mk.injEq, and_true]
  omega

theorem unicodeEscape_padHex {c : Char} (control : c.toNat < 32) {rest : List Char} (more : rest ≠ []) :
    unicodeEscape ((Text.padHex 4 c.toNat).toList ++ rest) = .ok (c, rest) := by
  rw [unicodeEscape, hex4?_padHex control]
  obtain ⟨next, rest, rfl⟩ := List.exists_cons_of_ne_nil more
  have low : ¬ (0xd800 ≤ c.toNat ∧ c.toNat < 0xdc00) := by omega
  have unit : ¬ (0xd800 ≤ c.toNat ∧ c.toNat < 0xe000) := by omega
  simp only [low, unit, if_false, unitChar, Char.ofNat_toNat]

/-- One printed character of a string is read back. -/
theorem string_escapeChar (c : Char) (opening fuel : Nat) {rest : List Char} (more : rest ≠ []) :
    string opening (fuel + 1) ((escapeChar c).toList ++ rest) =
      (string opening fuel rest).map fun found => (c :: found.1, found.2) := by
  have simple {e : Char} (value : Char) (stands : simpleEscape? e = some value) :
      string opening (fuel + 1) ('\\' :: e :: rest) =
        (string opening fuel rest).map fun found => (value :: found.1, found.2) := by
    have other : e ≠ 'u' := by
      rintro rfl
      cases stands
    simp only [string, show ('\\' : Char) ≠ '"' by decide, if_false, if_true, stands]
    cases string opening fuel rest <;> rfl
  have named {code : Nat} (is : c.toNat = code) : Char.ofNat code = c := by rw [← is, Char.ofNat_toNat]
  by_cases escaped : c ∈ ['"', '\\', '\n', '\r', '\t']
  · simp only [List.mem_cons, List.not_mem_nil, or_false] at escaped
    rcases escaped with rfl | rfl | rfl | rfl | rfl
    · exact simple '"' rfl
    · exact simple '\\' rfl
    · exact simple '\n' rfl
    · exact simple '\r' rfl
    · exact simple '\t' rfl
  · simp only [List.mem_cons, List.not_mem_nil, or_false, not_or] at escaped
    obtain ⟨quote, slash, line, back, tab⟩ := escaped
    simp only [escapeChar, quote, slash, line, back, tab, if_false]
    split
    · rw [← named ‹_›]
      exact simple (Char.ofNat 8) rfl
    · split
      · rw [← named ‹_›]
        exact simple (Char.ofNat 12) rfl
      · split
        · rename_i control
          have escape := unicodeEscape_padHex control more
          simp only [String.toList_append, show "\\u".toList = ['\\', 'u'] from rfl, List.cons_append,
            List.nil_append, string, show ('\\' : Char) ≠ '"' by decide, if_false, if_true, escape]
          change (string opening fuel rest >>= fun found => .ok (c :: found.1, found.2)) = _
          cases string opening fuel rest <;> rfl
        · rename_i plain
          simp only [show c.toString.toList = [c] by simp, List.cons_append, List.nil_append, string, quote, slash,
            plain, if_false]
          cases string opening fuel rest <;> rfl

theorem escapeChar_ne_nil (c : Char) : (escapeChar c).toList ≠ [] := by
  unfold escapeChar
  split_ifs <;> simp

/-- The characters of a string are read back up to its closing quote. -/
theorem string_join (chars : List Char) (opening : Nat) {fuel : Nat} (enough : chars.length < fuel) (rest : List Char) :
    string opening fuel ((String.join (chars.map escapeChar)).toList ++ '"' :: rest) = .ok (chars, rest) := by
  rw [String.toList_join]
  induction chars generalizing fuel with
  | nil =>
    obtain ⟨fuel, rfl⟩ : ∃ less, fuel = less + 1 := ⟨fuel - 1, by simp at enough; omega⟩
    simp [string]
  | cons c chars ih =>
    obtain ⟨fuel, rfl⟩ : ∃ less, fuel = less + 1 := ⟨fuel - 1, by simp at enough; omega⟩
    have left : string opening fuel _ = _ := ih (by simpa using enough)
    rw [List.map_cons, List.flatMap_cons, List.append_assoc, string_escapeChar c opening fuel (by simp), left]
    rfl

theorem length_le_join (chars : List Char) : chars.length ≤ (String.join (chars.map escapeChar)).toList.length := by
  rw [String.toList_join]
  induction chars with
  | nil => exact Nat.zero_le _
  | cons c chars ih =>
    have := List.length_pos_of_ne_nil (escapeChar_ne_nil c)
    simp only [List.map_cons, List.flatMap_cons, List.length_append, List.length_cons]
    omega
/-- What reading gives when the datum in front comes out so, and what follows it is left. -/
def answer {α : Type} (outcome : Except Nat α) (rest : List Char) : Except Stop (α × List Char) :=
  match outcome with
  | .ok a => .ok (a, rest)
  | .error count => .error (.tooManyDigits count)

/-- A text that begins with a datum and nothing before it: with whatever comes after it, unless that goes on with a
number, the datum is read as it comes out. -/
structure Reads (text : List Char) (outcome : Except Nat Json) : Prop where
  begins : ∃ c rest, text = c :: rest ∧ isSpace c = false ∧ c ≠ ']' ∧ c ≠ Char.ofNat 0xfeff
  found : ∀ fuel rest, text.length ≤ fuel → Ends rest → value fuel (text ++ rest) = answer outcome rest

theorem reads_null : Reads "null".toList (.ok .null) where
  begins := ⟨_, _, rfl, rfl, by decide, by decide⟩
  found fuel rest enough _ := by
    obtain ⟨fuel, rfl⟩ : ∃ less, fuel = less + 1 := ⟨fuel - 1, by simp at enough; omega⟩
    rfl

theorem reads_bool (b : Bool) : Reads (if b then "true" else "false").toList (.ok (.bool b)) where
  begins := by cases b <;> exact ⟨_, _, rfl, rfl, by decide, by decide⟩
  found fuel rest enough _ := by
    obtain ⟨fuel, rfl⟩ : ∃ less, fuel = less + 1 := ⟨fuel - 1, by cases b <;> simp at enough <;> omega⟩
    cases b <;> rfl

/-- The characters after the opening quote of a printed string are read back. -/
theorem string_quote (s : String) (opening : Nat) (rest : List Char) :
    ∃ inside, (quote s).toList = '"' :: inside ∧ s.toList.length < inside.length ∧
      string opening ((inside ++ rest).length + 1) (inside ++ rest) = .ok (s.toList, rest) := by
  have length := length_le_join s.toList
  refine ⟨(String.join (s.toList.map escapeChar)).toList ++ ['"'], by simp [quote],
    by simp [-String.toList_join]; omega, ?_⟩
  rw [List.append_assoc]
  exact string_join _ _ (by simp [-String.toList_join]; omega) _

theorem reads_text (s : String) : Reads (quote s).toList (.ok (.text s)) where
  begins := by
    obtain ⟨inside, opens, -, -⟩ := string_quote s 0 []
    exact ⟨_, _, opens, rfl, by decide, by decide⟩
  found fuel rest enough _ := by
    obtain ⟨inside, opens, -, read⟩ := string_quote s ((quote s).toList ++ rest).length rest
    rw [opens] at enough read ⊢
    obtain ⟨fuel, rfl⟩ : ∃ less, fuel = less + 1 := ⟨fuel - 1, by simp at enough; omega⟩
    rw [List.cons_append] at read ⊢
    simp only [value, read]
    simp [bind, Except.bind, answer]

/-- A digit in front begins a number. -/
theorem value_digit (fuel : Nat) {c : Char} (digit : c.isDigit = true) (rest : List Char) :
    value (fuel + 1) (c :: rest) = number (rest.length + 1) false (c :: rest) := by
  unfold value
  dsimp only
  split
  · contradiction
  · simp_all
  · simp_all
  · simp_all
  · simp_all
  · rename_i cons
    cases cons
    rw [if_pos digit]
    rfl

/-- A sign and a digit in front begin a number. -/
theorem value_minus (fuel : Nat) {c : Char} (digit : c.isDigit = true) (rest : List Char) :
    value (fuel + 1) ('-' :: c :: rest) = number (rest.length + 2) true (c :: rest) := by
  have other : after? "Infinity" (c :: rest) = none := by
    have : 'I' ≠ c := by
      rintro rfl
      contradiction
    simp [after?, this]
  simp only [value, other, List.length_cons]

/-- The text of a number is read as the number, after a sign as well as without one. -/
theorem reads_signed {digits : List Char} {negative : Bool} {outcome : Except Nat Json}
    (begins : ∃ c rest, digits = c :: rest ∧ c.isDigit = true)
    (found : ∀ start rest, Ends rest → number start negative (digits ++ rest) = answer outcome rest) :
    Reads ((if negative then ['-'] else []) ++ digits) outcome := by
  obtain ⟨c, others, rfl, digit⟩ := begins
  have mark : isSpace c = false ∧ c ≠ ']' ∧ c ≠ Char.ofNat 0xfeff := by
    refine ⟨?_, ?_, ?_⟩
    · simp only [isSpace, Bool.or_eq_false_iff, decide_eq_false_iff_not]
      refine ⟨⟨⟨?_, ?_⟩, ?_⟩, ?_⟩ <;>
        · rintro rfl
          contradiction
    · rintro rfl
      contradiction
    · rintro rfl
      contradiction
  refine ⟨?_, fun fuel rest enough ends => ?_⟩
  · cases negative
    · exact ⟨c, others, rfl, mark⟩
    · exact ⟨'-', c :: others, rfl, rfl, by decide, by decide⟩
  · obtain ⟨fuel, rfl⟩ : ∃ less, fuel = less + 1 := ⟨fuel - 1, by cases negative <;> simp at enough <;> omega⟩
    cases negative
    · exact (value_digit fuel digit _).trans (found _ _ ends)
    · exact (value_minus fuel digit _).trans (found _ _ ends)

theorem reads_int (n : Int) : Reads (toString n).toList (reread (.int n)) := by
  have text : (toString n).toList = (if decide (n < 0) then ['-'] else []) ++ Nat.toDigits 10 n.natAbs := by
    cases n with
    | ofNat n => simp [toString, Int.repr]
    | negSucc n => simp [toString, Int.repr]
  rw [text]
  refine reads_signed ?_ fun start rest ends => ?_
  · obtain ⟨c, others, digits⟩ := List.exists_cons_of_ne_nil (Nat.toDigits_ne_nil (n := n.natAbs) (b := 10))
    exact ⟨c, others, digits, Decimal.isDigit_toDigits (n := n.natAbs) (by simp [digits])⟩
  · have value : (if decide (n < 0) = true then -(n.natAbs : Int) else n.natAbs) = n := by
      simp only [decide_eq_true_eq]
      split <;> omega
    rw [number_int start _ _ ends, value, reread]
    split <;> rfl

theorem reads_nan : Reads "NaN".toList (.ok (.float .nan)) where
  begins := ⟨_, _, rfl, rfl, by decide, by decide⟩
  found fuel rest enough _ := by
    obtain ⟨fuel, rfl⟩ : ∃ less, fuel = less + 1 := ⟨fuel - 1, by simp at enough; omega⟩
    rfl

theorem reads_infinity (negative : Bool) :
    Reads ((if negative then "-" else "") ++ "Infinity").toList (.ok (.float (.infinity negative))) where
  begins := by cases negative <;> exact ⟨_, _, rfl, rfl, by decide, by decide⟩
  found fuel rest enough _ := by
    obtain ⟨fuel, rfl⟩ : ∃ less, fuel = less + 1 := ⟨fuel - 1, by cases negative <;> simp at enough <;> omega⟩
    cases negative <;> rfl

/-- The layout of a decimal begins with a digit. -/
theorem layOut_begins (d : Decimal.Scaled) : ∃ c rest, Decimal.layOut .json d = c :: rest ∧ c.isDigit = true := by
  obtain ⟨c, others, digits⟩ := List.exists_cons_of_ne_nil (Nat.toDigits_ne_nil (n := d.digits) (b := 10))
  have digit : c.isDigit = true := Decimal.isDigit_toDigits (n := d.digits) (by simp [digits])
  unfold Decimal.layOut
  dsimp only
  rw [digits]
  split
  · unfold Decimal.positional
    split
    · exact ⟨_, _, rfl, rfl⟩
    · obtain ⟨place, more⟩ : ∃ place, (((c :: others).length : Int) + d.exponent).toNat = place + 1 :=
        ⟨(((c :: others).length : Int) + d.exponent).toNat - 1, by omega⟩
      rw [more]
      dsimp only
      split
      · exact ⟨_, _, rfl, digit⟩
      · exact ⟨_, _, rfl, digit⟩
  · cases others <;> exact ⟨_, _, rfl, digit⟩

/-- A finite number is read back from its text. -/
theorem reads_finite {x : Binary64} {negative : Bool} {s : Nat} {e : Int} (shape : x.shape = .finite negative s e)
    {digits : List Char} (begins : ∃ c rest, digits = c :: rest ∧ c.isDigit = true)
    (found : ∀ start rest, Ends rest → number start negative (digits ++ rest) = .ok (.float x, rest)) :
    Reads ((if negative then "-" else "") ++ String.ofList digits).toList (reread (.float x)) := by
  have same : reread (.float x) = .ok (.float x) := reread_of_isPlain (by simp [isPlain, Binary64.isNaN, shape])
  have text : ((if negative then "-" else "") ++ String.ofList digits).toList =
      (if negative then ['-'] else []) ++ digits := by
    cases negative <;> simp
  rw [text, same]
  exact reads_signed begins found

theorem reads_float (x : Binary64) : Reads (Decimal.jsonText x).toList (reread (.float x)) := by
  unfold Decimal.jsonText Decimal.render
  cases shape : x.shape with
  | nan =>
    have nan : x.isNaN = true := by simp [Binary64.isNaN, shape]
    rw [reread, if_pos nan]
    exact reads_nan
  | infinite negative =>
    have same : reread (.float x) = .ok (.float x) := reread_of_isPlain (by simp [isPlain, Binary64.isNaN, shape])
    rw [same, Binary64.shape_infinite shape]
    exact reads_infinity negative
  | finite negative s e =>
    obtain ⟨normal, bits⟩ := Binary64.shape_finite shape
    cases s with
    | zero =>
      have least : e = -1074 := by simpa using normal.full
      have zero : x = .zero negative := by
        rw [bits, least]
        rfl
      refine reads_finite shape (show ∃ c rest, ['0', '.', '0'] = c :: rest ∧ c.isDigit = true from ⟨_, _, rfl, rfl⟩)
        fun start rest ends => ?_
      have point : fraction ('.' :: ['0'] ++ rest) = (['0'], rest) :=
        fraction_point (by simp) (by simp) fun c mem => (ends c mem).1
      refine (number_whole .zero start negative (by simp) point (exponent_ends ends)).trans ?_
      rw [zero]
      rfl
    | succ s =>
      refine reads_finite shape (layOut_begins _) fun start rest ends => ?_
      obtain ⟨digits, -⟩ := Decimal.shortest_spec (Nat.succ_pos s) normal
      obtain ⟨read, some, same, found⟩ := readAs_layOut digits start negative ends
      rw [found, Decimal.nearest_shortest shape (Nat.succ_pos s) some same]

theorem skipSpace_append {front : List Char} (blank : ∀ c ∈ front, isSpace c = true) (rest : List Char) :
    skipSpace (front ++ rest) = skipSpace rest := List.dropWhile_append_of_pos blank

theorem Reads.skipSpace_append {text : List Char} {outcome : Except Nat Json} (reads : Reads text outcome)
    (rest : List Char) : skipSpace (text ++ rest) = text ++ rest := by
  obtain ⟨c, tail, rfl, mark, -⟩ := reads.begins
  rw [List.cons_append, skipSpace, List.dropWhile_cons_of_neg (by simp [mark])]

/-- No number goes on with a blank. -/
theorem ends_blank {front rest : List Char} (blank : ∀ c ∈ front, isSpace c = true) (ends : Ends rest) :
    Ends (front ++ rest) := by
  cases front with
  | nil => exact ends
  | cons c front =>
    have mark := blank c List.mem_cons_self
    rintro _ ⟨⟩
    refine ⟨?_, ?_, ?_, ?_⟩
    · simp only [isSpace, Bool.or_eq_true, decide_eq_true_eq] at mark
      rcases mark with ((rfl | rfl) | rfl) | rfl <;> rfl
    all_goals
      rintro rfl
      contradiction

theorem ends_cons {c : Char} (other : c.isDigit = false ∧ c ≠ '.' ∧ c ≠ 'e' ∧ c ≠ 'E') (rest : List Char) :
    Ends (c :: rest) := by
  rintro _ ⟨⟩
  exact other

/-- A line break and an indentation. -/
theorem isSpace_indent (count : Nat) : ∀ c ∈ '\n' :: List.replicate count ' ', isSpace c = true := by
  simp +contextual [isSpace]

/-- Parts between brackets, with blanks where the layout has them. -/
def bracketed (opening closing : Char) (front inner outer : List Char) (parts : List String) : List Char :=
  opening :: (front ++ ((joinWith ("," ++ String.ofList inner) parts).toList ++ (outer ++ [closing])))

/-- The parts of an object are its members, each behind its name. -/
def memberText (text : Json → String) (pair : String × Json) : String := quote pair.1 ++ ": " ++ text pair.2

theorem printItems_eq (data : List Json) : printItems data = data.map print := by
  induction data with
  | nil => rfl
  | cons datum data ih => rw [printItems, ih, List.map_cons]

theorem printMembers_eq (m : Members) : printMembers m = m.map (memberText print) := by
  induction m with
  | nil => rfl
  | cons pair m ih => rw [printMembers, ih, List.map_cons, memberText]

theorem printIndentedItems_eq (level : Nat) (data : List Json) :
    printIndentedItems level data = data.map (printIndented level) := by
  induction data with
  | nil => rfl
  | cons datum data ih => rw [printIndentedItems, ih, List.map_cons]

theorem printIndentedMembers_eq (level : Nat) (m : Members) :
    printIndentedMembers level m = m.map (memberText (printIndented level)) := by
  induction m with
  | nil => rfl
  | cons pair m ih => rw [printIndentedMembers, ih, List.map_cons, memberText]

/-- A block is its parts between brackets, with a line for each. -/
theorem toList_block (level : Nat) (opening closing : Char) {parts : List String} (some : parts ≠ []) :
    (block level opening.toString closing.toString parts).toList =
      bracketed opening closing ('\n' :: List.replicate (2 * (level + 1)) ' ')
        ('\n' :: List.replicate (2 * (level + 1)) ' ') ('\n' :: List.replicate (2 * level) ' ') parts := by
  have more : parts.isEmpty = false := List.isEmpty_eq_false_iff.mpr some
  simp [block, bracketed, more]

theorem skipSpace_cons {c : Char} (mark : isSpace c = false) (rest : List Char) : skipSpace (c :: rest) = c :: rest :=
  List.dropWhile_cons_of_neg (by simp [mark])

section Bracketed

variable {text : Json → String} {front inner outer : List Char}

/-- One printed item of a list is read, and what follows it ends the list or goes on with it. -/
theorem items_cons {text : List Char} {outcome : Except Nat Json} (reads : Reads text outcome) {fuel : Nat}
    (enough : text.length ≤ fuel) {rest : List Char} (ends : Ends rest) :
    (∀ left, skipSpace rest = ']' :: left →
      items (fuel + 1) (text ++ rest) = answer outcome left >>= fun found => .ok ([found.1], found.2)) ∧
    ∀ left, skipSpace rest = ',' :: left →
      items (fuel + 1) (text ++ rest) = answer outcome (skipSpace left) >>= fun found =>
        items fuel found.2 >>= fun others => .ok (found.1 :: others.1, others.2) := by
  constructor <;> intro left goes <;> simp only [items, reads.found fuel rest enough ends] <;> cases outcome <;>
    simp [answer, bind, Except.bind, goes]

/-- Printed items begin as the first of them does. -/
theorem printItems_begins (separator : String) {datum : Json} {outcome : Except Nat Json}
    (reads : Reads (text datum).toList outcome) (others : List Json) :
    ∃ c rest, (joinWith separator ((datum :: others).map text)).toList = c :: rest ∧ isSpace c = false ∧ c ≠ ']' := by
  obtain ⟨c, tail, begins, mark, close, -⟩ := reads.begins
  cases others with
  | nil => exact ⟨c, tail, by simpa [joinWith, String.intercalate_singleton] using begins, mark, close⟩
  | cons second others =>
    simp only [List.map_cons, joinWith, String.intercalate_cons_cons, String.toList_append, begins, List.cons_append]
    exact ⟨c, _, rfl, mark, close⟩

/-- The printed items of a list are read up to its closing bracket. -/
theorem items_print (between : ∀ c ∈ inner, isSpace c = true) (after : ∀ c ∈ outer, isSpace c = true)
    (data : List Json) (some : data ≠ []) (each : ∀ datum ∈ data, Reads (text datum).toList (reread datum)) (fuel : Nat)
    (enough : (joinWith ("," ++ String.ofList inner) (data.map text)).toList.length ≤ fuel) (rest : List Char) :
    items (fuel + 1) ((joinWith ("," ++ String.ofList inner) (data.map text)).toList ++ (outer ++ ']' :: rest)) =
      answer (rereadItems data) rest := by
  induction data generalizing fuel with
  | nil => exact absurd rfl some
  | cons datum others ih =>
    have reads := each datum List.mem_cons_self
    cases others with
    | nil =>
      simp only [List.map_cons, List.map_nil, joinWith, String.intercalate_singleton] at enough ⊢
      have ends : Ends (outer ++ ']' :: rest) := ends_blank after (ends_cons (by decide) _)
      rw [(items_cons reads enough ends).1 rest (skipSpace_append after _)]
      simp only [rereadItems]
      cases reread datum <;> rfl
    | cons second others =>
      have left := ih (by simp) fun datum mem => each datum (List.mem_cons_of_mem _ mem)
      have next (rest : List Char) : skipSpace (inner ++
          ((joinWith ("," ++ String.ofList inner) ((second :: others).map text)).toList ++ rest)) =
            (joinWith ("," ++ String.ofList inner) ((second :: others).map text)).toList ++ rest := by
        obtain ⟨c, tail, begins, mark, -⟩ :=
          printItems_begins ("," ++ String.ofList inner) (each second (by simp)) others
        rw [skipSpace_append between, begins, List.cons_append, skipSpace_cons mark]
      simp only [List.map_cons, joinWith, String.intercalate_cons_cons, String.toList_append,
        String.toList_ofList, List.length_append, List.append_assoc] at enough left next ⊢
      have comma : ",".toList.length = 1 := rfl
      obtain ⟨fuel, rfl⟩ : ∃ less, fuel = less + 1 := ⟨fuel - 1, by omega⟩
      have following := left fuel (by omega)
      refine ((items_cons reads (by omega) (ends_cons (by decide) _)).2 _ rfl).trans ?_
      have here := next (outer ++ ']' :: rest)
      rw [rereadItems]
      cases reread datum with
      | error count => rfl
      | ok item =>
        simp only [answer, bind, Except.bind, List.append_eq, List.nil_append, here, following]
        cases rereadItems (second :: others) <;> rfl

/-- A list in brackets is read item by item. -/
theorem reads_items (before : ∀ c ∈ front, isSpace c = true) (between : ∀ c ∈ inner, isSpace c = true)
    (after : ∀ c ∈ outer, isSpace c = true) {data : List Json} (some : data ≠ [])
    (each : ∀ datum ∈ data, Reads (text datum).toList (reread datum)) :
    Reads (bracketed '[' ']' front inner outer (data.map text)) (reread (.list data)) := by
  obtain ⟨datum, others, rfl⟩ := List.exists_cons_of_ne_nil some
  refine ⟨⟨'[', _, rfl, rfl, by decide, by decide⟩, fun fuel rest enough _ => ?_⟩
  rw [bracketed] at enough ⊢
  obtain ⟨fuel, rfl⟩ : ∃ less, fuel = less + 2 := ⟨fuel - 2, by simp at enough; omega⟩
  have read := items_print between after (datum :: others) some each fuel (by simp at enough ⊢; omega) rest
  obtain ⟨c, tail, begins, mark, other⟩ :=
    printItems_begins ("," ++ String.ofList inner) (each datum List.mem_cons_self) others
  have next (rest : List Char) : skipSpace (front ++ (c :: tail ++ rest)) = c :: tail ++ rest :=
    (skipSpace_append before _).trans (skipSpace_cons mark _)
  rw [begins] at read ⊢
  simp only [List.cons_append, List.append_assoc, List.nil_append] at read next ⊢
  simp only [value, next]
  split
  · rename_i first
    exact absurd (List.cons.inj first).1 other
  · rw [read, reread]
    cases rereadItems (datum :: others) <;> rfl

/-- One printed member of an object is read, and what follows it ends the object or goes on with it. -/
theorem members_cons {key : String} {text : List Char} {outcome : Except Nat Json} (reads : Reads text outcome)
    (before : Members) {fuel : Nat} (enough : text.length ≤ fuel) {rest : List Char} (ends : Ends rest) :
    (∀ left, skipSpace rest = '\x7d' :: left →
      members (fuel + 1) before ((quote key).toList ++ (": ".toList ++ (text ++ rest))) =
        answer outcome left >>= fun found => .ok (before.set key found.1, found.2)) ∧
    ∀ left, skipSpace rest = ',' :: left →
      members (fuel + 1) before ((quote key).toList ++ (": ".toList ++ (text ++ rest))) =
        answer outcome (skipSpace left) >>= fun found => members fuel (before.set key found.1) found.2 := by
  obtain ⟨inside, opens, -, read⟩ := string_quote key
    ((quote key).toList ++ (": ".toList ++ (text ++ rest))).length (": ".toList ++ (text ++ rest))
  have colon : skipSpace (": ".toList ++ (text ++ rest)) = ':' :: ' ' :: (text ++ rest) := rfl
  have space : ∀ c ∈ [' '], isSpace c = true := by simp [isSpace]
  have blank : skipSpace (' ' :: (text ++ rest)) = text ++ rest :=
    (skipSpace_append space _).trans (reads.skipSpace_append rest)
  rw [opens] at read ⊢
  rw [List.cons_append] at read ⊢
  constructor <;> intro left goes <;>
    simp only [members, read, bind, Except.bind, colon, blank, reads.found fuel rest enough ends,
      String.ofList_toList] <;>
    cases outcome <;> simp [answer, goes]

/-- Printed members begin with a quote. -/
theorem print_begins (text : Json → String) (separator : String) {m : Members} (some : m ≠ []) :
    ∃ rest, (joinWith separator (m.map (memberText text))).toList = '"' :: rest := by
  obtain ⟨⟨key, datum⟩, others, rfl⟩ := List.exists_cons_of_ne_nil some
  cases others <;>
    simp [memberText, joinWith, quote, String.intercalate_singleton, String.intercalate_cons_cons]

/-- The printed members of an object are read up to its closing bracket. -/
theorem members_print (between : ∀ c ∈ inner, isSpace c = true) (after : ∀ c ∈ outer, isSpace c = true) (m : Members)
    (some : m ≠ []) (each : ∀ pair ∈ m, Reads (text pair.2).toList (reread pair.2)) (before : Members) (fuel : Nat)
    (enough : (joinWith ("," ++ String.ofList inner) (m.map (memberText text))).toList.length ≤ fuel)
    (rest : List Char) :
    members fuel before ((joinWith ("," ++ String.ofList inner) (m.map (memberText text))).toList ++
      (outer ++ '\x7d' :: rest)) = answer (rereadMembers before m) rest := by
  induction m generalizing before fuel with
  | nil => exact absurd rfl some
  | cons pair others ih =>
    obtain ⟨key, datum⟩ := pair
    have reads : Reads (text datum).toList (reread datum) := each (key, datum) List.mem_cons_self
    cases others with
    | nil =>
      simp only [List.map_cons, List.map_nil, memberText, joinWith, String.intercalate_singleton,
        String.toList_append, List.length_append, List.append_assoc] at enough ⊢
      have colon : ": ".toList.length = 2 := rfl
      obtain ⟨fuel, rfl⟩ : ∃ less, fuel = less + 1 := ⟨fuel - 1, by omega⟩
      have ends : Ends (outer ++ '\x7d' :: rest) := ends_blank after (ends_cons (by decide) _)
      rw [(members_cons reads before (by omega) ends).1 rest (skipSpace_append after _)]
      simp only [rereadMembers]
      cases reread datum <;> rfl
    | cons second others =>
      have left := ih (by simp) fun pair mem => each pair (List.mem_cons_of_mem _ mem)
      have next (rest : List Char) : skipSpace (inner ++
          ((joinWith ("," ++ String.ofList inner) ((second :: others).map (memberText text))).toList ++ rest)) =
            (joinWith ("," ++ String.ofList inner) ((second :: others).map (memberText text))).toList ++ rest := by
        obtain ⟨tail, opens⟩ :=
          print_begins text ("," ++ String.ofList inner) (show second :: others ≠ [] by simp)
        rw [skipSpace_append between, opens]
        rfl
      rw [List.map_cons] at enough ⊢
      generalize following : (second :: others).map (memberText text) = parts at enough left next ⊢
      obtain ⟨part, parts, rfl⟩ : ∃ part more, parts = part :: more := ⟨_, _, following.symm⟩
      simp only [memberText, joinWith, String.intercalate_cons_cons, String.toList_append,
        String.toList_ofList, List.length_append, List.append_assoc] at enough left next ⊢
      have colon : ": ".toList.length = 2 := rfl
      have comma : ",".toList.length = 1 := rfl
      obtain ⟨fuel, rfl⟩ : ∃ less, fuel = less + 1 := ⟨fuel - 1, by omega⟩
      refine ((members_cons reads before (by omega) (ends_cons (by decide) _)).2 _ rfl).trans ?_
      have here := next (outer ++ '\x7d' :: rest)
      rw [rereadMembers]
      cases reread datum with
      | error count => rfl
      | ok found =>
        simp only [answer, bind, Except.bind, List.append_eq, List.nil_append, here]
        exact left (before.set key found) fuel (by omega)

/-- An object in brackets is read member by member. -/
theorem reads_members (before : ∀ c ∈ front, isSpace c = true) (between : ∀ c ∈ inner, isSpace c = true)
    (after : ∀ c ∈ outer, isSpace c = true) {m : Members} (some : m ≠ [])
    (each : ∀ pair ∈ m, Reads (text pair.2).toList (reread pair.2)) :
    Reads (bracketed '\x7b' '\x7d' front inner outer (m.map (memberText text))) (reread (.object m)) := by
  refine ⟨⟨_, _, rfl, rfl, by decide, by decide⟩, fun fuel rest enough _ => ?_⟩
  rw [bracketed] at enough ⊢
  obtain ⟨fuel, rfl⟩ : ∃ less, fuel = less + 1 := ⟨fuel - 1, by simp at enough; omega⟩
  have read := members_print between after m some each [] fuel (by simp at enough ⊢; omega) rest
  obtain ⟨tail, opens⟩ := print_begins text ("," ++ String.ofList inner) some
  have next (rest : List Char) : skipSpace (front ++ ('"' :: tail ++ rest)) = '"' :: tail ++ rest :=
    skipSpace_append before _
  rw [opens] at read ⊢
  simp only [List.cons_append, List.append_assoc, List.nil_append] at read next ⊢
  simp only [value, next]
  refine (congrArg (fun found => found >>= fun parts => .ok (object parts.1, parts.2)) read).trans ?_
  rw [reread]
  cases rereadMembers [] m <;> rfl

end Bracketed

/-! ### The two layouts -/

theorem reads_empty : Reads ['[', ']'] (reread (.list [])) ∧ Reads ['\x7b', '\x7d'] (reread (.object [])) := by
  constructor <;> refine ⟨⟨_, _, rfl, rfl, by decide, by decide⟩, fun fuel rest enough _ => ?_⟩ <;>
    · obtain ⟨fuel, rfl⟩ : ∃ less, fuel = less + 1 := ⟨fuel - 1, by simp at enough; omega⟩
      rfl

theorem reads_indented_list (level : Nat) {data : List Json}
    (each : ∀ datum ∈ data, Reads (printIndented (level + 1) datum).toList (reread datum)) :
    Reads (printIndented level (.list data)).toList (reread (.list data)) := by
  by_cases none : data = []
  · subst none
    simpa [printIndented, printIndentedItems, block] using reads_empty.1
  · rw [printIndented, printIndentedItems_eq]
    refine Eq.mpr (congrArg (Reads · _) (toList_block level '[' ']' (by simpa using none))) ?_
    exact reads_items (isSpace_indent _) (isSpace_indent _) (isSpace_indent _) none each

theorem reads_indented_object (level : Nat) {m : Members}
    (each : ∀ pair ∈ m, Reads (printIndented (level + 1) pair.2).toList (reread pair.2)) :
    Reads (printIndented level (.object m)).toList (reread (.object m)) := by
  by_cases none : m = []
  · subst none
    simpa [printIndented, printIndentedMembers, block] using reads_empty.2
  · rw [printIndented, printIndentedMembers_eq]
    refine Eq.mpr (congrArg (Reads · _) (toList_block level '\x7b' '\x7d' (by simpa using none))) ?_
    exact reads_members (isSpace_indent _) (isSpace_indent _) (isSpace_indent _) none each

/-- On one line, a comma and a blank stand between the parts. -/
theorem toList_line (opening closing : Char) (parts : List String) :
    (opening.toString ++ joinWith ", " parts ++ closing.toString).toList =
      bracketed opening closing [] [' '] [] parts := by
  simp [bracketed]

theorem reads_line_list {data : List Json} (each : ∀ datum ∈ data, Reads (print datum).toList (reread datum)) :
    Reads (print (.list data)).toList (reread (.list data)) := by
  by_cases none : data = []
  · subst none
    simpa [print, printItems, joinWith] using reads_empty.1
  · rw [print, printItems_eq]
    refine Eq.mpr (congrArg (Reads · _) (toList_line '[' ']' _)) ?_
    exact reads_items (by simp) (by simp [isSpace]) (by simp) none each

theorem reads_line_object {m : Members} (each : ∀ pair ∈ m, Reads (print pair.2).toList (reread pair.2)) :
    Reads (print (.object m)).toList (reread (.object m)) := by
  by_cases none : m = []
  · subst none
    simpa [print, printMembers, joinWith] using reads_empty.2
  · rw [print, printMembers_eq]
    refine Eq.mpr (congrArg (Reads · _) (toList_line '\x7b' '\x7d' _)) ?_
    exact reads_members (by simp) (by simp [isSpace]) (by simp) none each

/-- The texts of a datum, indented or on one line, are read as the datum is reread. -/
structure ReadsBack (datum : Json) : Prop where
  indented : ∀ level, Reads (printIndented level datum).toList (reread datum)
  line : Reads (print datum).toList (reread datum)

mutual

theorem readsBack (datum : Json) : ReadsBack datum := by
  cases datum with
  | null => exact ⟨fun _ => reads_null, reads_null⟩
  | bool b => exact ⟨fun _ => reads_bool b, reads_bool b⟩
  | int n => exact ⟨fun _ => reads_int n, reads_int n⟩
  | float x => exact ⟨fun _ => reads_float x, reads_float x⟩
  | text s => exact ⟨fun _ => reads_text s, reads_text s⟩
  | list data =>
    have each := readsBack_items data
    exact ⟨fun level => reads_indented_list level fun datum mem => (each datum mem).indented (level + 1),
      reads_line_list fun datum mem => (each datum mem).line⟩
  | object m =>
    have each := readsBack_members m
    exact ⟨fun level => reads_indented_object level fun pair mem => (each pair mem).indented (level + 1),
      reads_line_object fun pair mem => (each pair mem).line⟩

theorem readsBack_items (data : List Json) : ∀ datum ∈ data, ReadsBack datum := by
  match data with
  | [] => simp
  | first :: others =>
    exact List.forall_mem_cons.mpr ⟨readsBack first, readsBack_items others⟩

theorem readsBack_members (m : List (String × Json)) : ∀ pair ∈ m, ReadsBack pair.2 := by
  match m with
  | [] => simp
  | (key, datum) :: others =>
    exact List.forall_mem_cons.mpr ⟨readsBack datum, readsBack_members others⟩

end

/-- A text that begins with a datum and goes on with blanks is read as the datum comes out. -/
theorem read_of_reads {text : String} {front : List Char} {outcome : Except Nat Json} (reads : Reads front outcome)
    (blanks : List Char) (is : text.toList = front ++ blanks) (blank : ∀ c ∈ blanks, isSpace c = true) :
    read text = outcome.mapError Fault.tooManyDigits := by
  have ends : Ends blanks := by simpa using ends_blank blank (show Ends [] from nofun)
  have found := reads.found ((front ++ blanks).length + 1) blanks (by simp; omega) ends
  have skipped := reads.skipSpace_append blanks
  have empty : skipSpace blanks = [] := by simpa [skipSpace] using skipSpace_append blank []
  obtain ⟨c, rest, begins, -, -, mark⟩ := reads.begins
  have first : text.toList.head? ≠ some (Char.ofNat 0xfeff) := by
    rw [is, begins]
    simpa using mark
  rw [read]
  dsimp only
  rw [if_neg first, is, skipped, found]
  cases outcome with
  | error => rfl
  | ok datum => simp [answer, empty, Except.mapError]

/-- The text of a file is read as its datum is reread. -/
theorem read_fileText (datum : Json) : read datum.fileText = (reread datum).mapError Fault.tooManyDigits :=
  read_of_reads ((readsBack datum).indented 0) ['\n'] (by simp [fileText]) (by simp [isSpace])

/-- The text of a file gives a plain datum back. -/
theorem read_fileText_of_isPlain {datum : Json} (plain : datum.isPlain = true) : read datum.fileText = .ok datum := by
  rw [read_fileText, reread_of_isPlain plain]
  rfl

/-- A datum on one line is read as it is reread. -/
theorem read_print (datum : Json) : read datum.print = (reread datum).mapError Fault.tooManyDigits :=
  read_of_reads (readsBack datum).line [] (by simp) (by simp)

/-- A line gives a plain datum back. -/
theorem read_print_of_isPlain {datum : Json} (plain : datum.isPlain = true) : read datum.print = .ok datum := by
  rw [read_print, reread_of_isPlain plain]
  rfl

/-! ### The characters of a line -/

/-- A text without control characters; a line end is one of them. -/
def Unbroken (s : String) : Prop := ∀ c ∈ s.toList, 32 ≤ c.toNat

instance (s : String) : Decidable (Unbroken s) := List.decidableBAll (fun c : Char => 32 ≤ c.toNat) s.toList

theorem Unbroken.append {s t : String} (front : Unbroken s) (back : Unbroken t) : Unbroken (s ++ t) := by
  intro c mem
  rw [String.toList_append, List.mem_append] at mem
  exact mem.elim (front c) (back c)

theorem unbroken_joinWith {separator : String} (between : Unbroken separator) {parts : List String}
    (each : ∀ part ∈ parts, Unbroken part) : Unbroken (joinWith separator parts) := by
  induction parts with
  | nil => exact nofun
  | cons part others ih =>
    obtain ⟨first, left⟩ := List.forall_mem_cons.mp each
    cases others with
    | nil => simpa [joinWith, String.intercalate_singleton] using first
    | cons second others =>
      rw [joinWith, String.intercalate_cons_cons]
      exact (first.append between).append (ih left)

theorem le_of_isDigit {c : Char} (digit : c.isDigit = true) : 32 ≤ c.toNat := by
  have code : 48 ≤ c.toNat := by
    simp [Char.isDigit] at digit
    exact digit.1
  omega

theorem unbroken_escapeChar (c : Char) : Unbroken (escapeChar c) := by
  unfold escapeChar
  split_ifs with _ _ _ _ _ _ _ control
  iterate 7 decide
  · have digits : ∀ n < 32, Unbroken ("\\u" ++ Text.padHex 4 n) := by decide
    exact digits _ control
  · intro d mem
    obtain rfl : d = c := by simpa using mem
    omega

theorem unbroken_quote (s : String) : Unbroken (quote s) := by
  have inside : Unbroken (String.join (s.toList.map escapeChar)) := by
    intro c mem
    rw [String.toList_join, List.mem_flatMap] at mem
    obtain ⟨part, mem, here⟩ := mem
    obtain ⟨d, -, rfl⟩ := List.mem_map.mp mem
    exact unbroken_escapeChar d c here
  exact (Unbroken.append (by decide) inside).append (by decide)

theorem unbroken_int (n : Int) : Unbroken (toString n) := by
  have digits (k : Nat) : Unbroken (Nat.repr k) := by
    intro c mem
    rw [Nat.repr, String.toList_ofList] at mem
    exact le_of_isDigit (Decimal.isDigit_toDigits mem)
  cases n with
  | ofNat n => exact digits n
  | negSucc n => exact Unbroken.append (by decide) (digits (n + 1))

theorem unbroken_jsonText (x : Binary64) : Unbroken (Decimal.jsonText x) := by
  have sign (negative : Bool) : Unbroken (if negative then "-" else "") := by cases negative <;> decide
  unfold Decimal.jsonText Decimal.render
  split
  · decide
  · exact (sign _).append (by decide)
  · exact (sign _).append (by decide)
  · refine (sign _).append fun c mem => ?_
    rw [String.toList_ofList] at mem
    rcases Decimal.isNumeric_layOut _ _ c mem with digit | mark
    · exact le_of_isDigit digit
    · have marks : ∀ c ∈ ['.', 'e', '+', '-'], 32 ≤ c.toNat := by simp
      exact marks c mark

mutual

/-- A datum on one line is on one line. -/
theorem unbroken_print (datum : Json) : Unbroken datum.print := by
  cases datum with
  | null => decide
  | bool b => cases b <;> decide
  | int n => exact unbroken_int n
  | float x => exact unbroken_jsonText x
  | text s => exact unbroken_quote s
  | list data =>
    have inside := unbroken_joinWith (show Unbroken ", " by decide) (unbroken_printItems data)
    exact (Unbroken.append (by decide) inside).append (by decide)
  | object m =>
    have inside := unbroken_joinWith (show Unbroken ", " by decide) (unbroken_printMembers m)
    exact (Unbroken.append (by decide) inside).append (by decide)

theorem unbroken_printItems (data : List Json) : ∀ part ∈ printItems data, Unbroken part := by
  match data with
  | [] => exact nofun
  | datum :: others => exact List.forall_mem_cons.mpr ⟨unbroken_print datum, unbroken_printItems others⟩

theorem unbroken_printMembers (m : List (String × Json)) : ∀ part ∈ printMembers m, Unbroken part := by
  match m with
  | [] => exact nofun
  | (key, datum) :: others =>
    have first := ((unbroken_quote key).append (show Unbroken ": " by decide)).append (unbroken_print datum)
    exact List.forall_mem_cons.mpr ⟨first, unbroken_printMembers others⟩

end

mutual

/-- A plain datum has a text. -/
theorem isWritable_of_isPlain {datum : Json} (plain : datum.isPlain = true) : datum.isWritable = true := by
  cases datum with
  | int n => exact plain
  | list data => exact itemsWritable_of_plain (isPlain_list.mp plain)
  | object m => exact membersWritable_of_plain (isPlain_object.mp plain).2
  | _ => rfl

theorem itemsWritable_of_plain {data : List Json} (plain : ∀ datum ∈ data, datum.isPlain = true) :
    itemsWritable data = true := by
  match data with
  | [] => rfl
  | datum :: others =>
    obtain ⟨first, left⟩ := List.forall_mem_cons.mp plain
    rw [itemsWritable, isWritable_of_isPlain first, itemsWritable_of_plain left, Bool.true_and]

theorem membersWritable_of_plain {m : List (String × Json)} (plain : ∀ pair ∈ m, pair.2.isPlain = true) :
    membersWritable m = true := by
  match m with
  | [] => rfl
  | (key, datum) :: others =>
    obtain ⟨first, left⟩ := List.forall_mem_cons.mp plain
    rw [membersWritable, isWritable_of_isPlain first, membersWritable_of_plain left, Bool.true_and]

end

end TriggerFlow.Json
