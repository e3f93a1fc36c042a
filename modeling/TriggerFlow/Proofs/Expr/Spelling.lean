import TriggerFlow.Expr.Spelling

/-!
# Operators in words, piece by piece

The spellings of the operators are replaced in five passes over a stretch of code. Each pass goes on where the piece in
front ends, so the passes can be followed together, one piece of the code after the other, and past every literal.
-/

namespace TriggerFlow.Expr.Spelling

/-! ### One pass -/

section Replacing

variable {p c : Char} {ps replacement text : List Char}

theorem replaceFrom_cons_of_not_ahead (none : ¬ p :: ps <+: c :: text) :
    replaceFrom (p :: ps) replacement 0 (c :: text) = c :: replaceFrom (p :: ps) replacement 0 text := by
  rw [replaceFrom, if_neg]
  rwa [List.isPrefixOf_iff_prefix]

theorem replaceFrom_cons_of_ne (ne : c ≠ p) :
    replaceFrom (p :: ps) replacement 0 (c :: text) = c :: replaceFrom (p :: ps) replacement 0 text :=
  replaceFrom_cons_of_not_ahead fun ahead => ne (List.cons_prefix_cons.mp ahead).1.symm

theorem head?_of_ahead (ahead : p :: ps <+: text) : text.head? = some p := by
  obtain ⟨rest, rfl⟩ := ahead
  rfl

theorem replaceFrom_length (pattern : List Char) :
    ∀ passed : List Char, replaceFrom pattern replacement passed.length (passed ++ text) =
      replaceFrom pattern replacement 0 text
  | [] => rfl
  | _ :: passed => replaceFrom_length pattern passed

theorem replaceFrom_pattern :
    replaceFrom (p :: ps) replacement 0 (p :: (ps ++ text)) =
      replacement ++ replaceFrom (p :: ps) replacement 0 text := by
  have ahead : (p :: ps).isPrefixOf (p :: (ps ++ text)) = true := by simp [List.isPrefixOf_iff_prefix]
  rw [replaceFrom, if_pos ahead, List.length_cons, Nat.add_sub_cancel, replaceFrom_length]

/-- A pass that puts in something that begins as its pattern does leaves the first character as it is. -/
theorem head?_replaceFrom (same : replacement.head? = some p) :
    (replaceFrom (p :: ps) replacement 0 text).head? = text.head? := by
  cases text with
  | nil => rfl
  | cons c text =>
    by_cases ahead : p :: ps <+: c :: text
    · rw [replaceFrom, if_pos (List.isPrefixOf_iff_prefix.mpr ahead), List.head?_append, same,
        (List.cons_prefix_cons.mp ahead).1]
      rfl
    · rw [replaceFrom_cons_of_not_ahead ahead]
      rfl

/-- A pass that puts in a word brings no other character to the front than the first one of the word. -/
theorem head?_replaceFrom_ne {first d : Char} (ne : text.head? ≠ some d) (begins : replacement.head? = some first)
    (other : first ≠ d) : (replaceFrom (p :: ps) replacement 0 text).head? ≠ some d := by
  cases text with
  | nil => exact ne
  | cons c text =>
    by_cases ahead : p :: ps <+: c :: text
    · rw [replaceFrom, if_pos (List.isPrefixOf_iff_prefix.mpr ahead), List.head?_append, begins]
      simpa using other
    · rw [replaceFrom_cons_of_not_ahead ahead]
      exact ne

end Replacing

/-! ### The passes over a stretch of code together -/

variable {c : Char} {text : List Char}

/-- The passes that put in other signs for the equalities. -/
def equalities (text : List Char) : List Char :=
  replaceFrom ['!', '=', '='] ['!', '='] 0 (replaceFrom ['=', '=', '='] ['=', '='] 0 text)

/-- The passes that put in the words of the junctions. -/
def junctions (text : List Char) : List Char :=
  replaceFrom ['|', '|'] " or ".toList 0 (replaceFrom ['&', '&'] " and ".toList 0 text)

theorem operators_eq (text : List Char) : operators text = replaceNot (junctions (equalities text)) := rfl

theorem equalities_cons (equal : c ≠ '=') (mark : c ≠ '!') : equalities (c :: text) = c :: equalities text := by
  rw [equalities, replaceFrom_cons_of_ne equal, replaceFrom_cons_of_ne mark, equalities]

theorem head?_equalities : (equalities text).head? = text.head? := by
  rw [equalities, head?_replaceFrom rfl, head?_replaceFrom rfl]

theorem junctions_cons (both : c ≠ '&') (either : c ≠ '|') : junctions (c :: text) = c :: junctions text := by
  rw [junctions, replaceFrom_cons_of_ne both, replaceFrom_cons_of_ne either, junctions]

theorem head?_junctions_ne (ne : text.head? ≠ some '=') : (junctions text).head? ≠ some '=' :=
  head?_replaceFrom_ne (head?_replaceFrom_ne ne rfl (by decide)) rfl (by decide)

theorem replaceNot_cons (mark : c ≠ '!') : replaceNot (c :: text) = c :: replaceNot text := by
  rw [replaceNot]
  · rintro rest ⟨⟩
    exact absurd rfl mark
  · exact mark

theorem replaceNot_mark (ne : text.head? ≠ some '=') : replaceNot ('!' :: text) = " not ".toList ++ replaceNot text := by
  rw [replaceNot]
  rintro rest rfl
  exact ne rfl

/-- Two characters that no pass after the equalities touches. -/
theorem operators_of_equalities {d : Char} {before : List Char}
    (passed : equalities before = c :: d :: equalities text) (first : c ≠ '!' ∨ d = '=')
    (firstInert : c ≠ '&' ∧ c ≠ '|') (secondInert : d ≠ '!' ∧ d ≠ '&' ∧ d ≠ '|') :
    operators before = c :: d :: operators text := by
  rw [operators_eq, passed, junctions_cons firstInert.1 firstInert.2, junctions_cons secondInert.2.1 secondInert.2.2]
  by_cases mark : c = '!'
  · subst mark
    rw [first.resolve_left fun other => other rfl]
    rfl
  · rw [replaceNot_cons mark, replaceNot_cons secondInert.1, operators_eq]

/-- A character that no operator begins with or goes on with. -/
def Inert (c : Char) : Prop := c ≠ '=' ∧ c ≠ '!' ∧ c ≠ '&' ∧ c ≠ '|'

instance (c : Char) : Decidable (Inert c) := inferInstanceAs (Decidable (_ ∧ _))

theorem operators_cons (inert : Inert c) : operators (c :: text) = c :: operators text := by
  obtain ⟨equal, mark, both, either⟩ := inert
  rw [operators_eq, equalities_cons equal mark, junctions_cons both either, replaceNot_cons mark, operators_eq]

theorem operators_append {code : List Char} (inert : ∀ c ∈ code, Inert c) :
    operators (code ++ text) = code ++ operators text := by
  induction code with
  | nil => rfl
  | cons c code ih =>
    rw [List.forall_mem_cons] at inert
    rw [List.cons_append, operators_cons inert.1, ih inert.2, List.cons_append]

theorem operators_same : operators ('=' :: '=' :: '=' :: text) = '=' :: '=' :: operators text := by
  have first : replaceFrom ['=', '=', '='] ['=', '='] 0 ('=' :: '=' :: '=' :: text) =
    '=' :: '=' :: replaceFrom ['=', '=', '='] ['=', '='] 0 text := replaceFrom_pattern
  refine operators_of_equalities ?_ (.inr rfl) (by decide) (by decide)
  rw [equalities, first, replaceFrom_cons_of_ne (by decide), replaceFrom_cons_of_ne (by decide), equalities]

theorem operators_notSame (ne : text.head? ≠ some '=') :
    operators ('!' :: '=' :: '=' :: text) = '!' :: '=' :: operators text := by
  have first : replaceFrom ['=', '=', '='] ['=', '='] 0 ('!' :: '=' :: '=' :: text) =
      '!' :: '=' :: '=' :: replaceFrom ['=', '=', '='] ['=', '='] 0 text := by
    rw [replaceFrom_cons_of_ne (by decide), replaceFrom_cons_of_not_ahead, replaceFrom_cons_of_not_ahead]
    · exact fun ahead => ne (head?_of_ahead (List.cons_prefix_cons.mp ahead).2)
    · exact fun ahead => ne (head?_of_ahead (List.cons_prefix_cons.mp (List.cons_prefix_cons.mp ahead).2).2)
  refine operators_of_equalities ?_ (.inr rfl) (by decide) (by decide)
  rw [equalities, first, equalities]
  exact replaceFrom_pattern

/-- An equality sign that closes an operator of order. -/
theorem operators_sign (before : Inert c) (ne : text.head? ≠ some '=') :
    operators (c :: '=' :: text) = c :: '=' :: operators text := by
  refine operators_of_equalities ?_ (.inr rfl) before.2.2 (by decide)
  have single : replaceFrom ['=', '=', '='] ['=', '='] 0 ('=' :: text) =
      '=' :: replaceFrom ['=', '=', '='] ['=', '='] 0 text :=
    replaceFrom_cons_of_not_ahead fun ahead => ne (head?_of_ahead (List.cons_prefix_cons.mp ahead).2)
  rw [equalities_cons before.1 before.2.1, equalities, single, replaceFrom_cons_of_ne (by decide), equalities]

theorem operators_both : operators ('&' :: '&' :: text) = " and ".toList ++ operators text := by
  have first : replaceFrom ['&', '&'] " and ".toList 0 ('&' :: '&' :: equalities text) =
    " and ".toList ++ replaceFrom ['&', '&'] " and ".toList 0 (equalities text) := replaceFrom_pattern
  rw [operators_eq, equalities_cons (by decide) (by decide), equalities_cons (by decide) (by decide), junctions, first]
  rfl

theorem operators_either : operators ('|' :: '|' :: text) = " or ".toList ++ operators text := by
  have first : replaceFrom ['&', '&'] " and ".toList 0 ('|' :: '|' :: equalities text) =
      '|' :: '|' :: replaceFrom ['&', '&'] " and ".toList 0 (equalities text) := by
    rw [replaceFrom_cons_of_ne (by decide), replaceFrom_cons_of_ne (by decide)]
  rw [operators_eq, equalities_cons (by decide) (by decide), equalities_cons (by decide) (by decide), junctions, first]
  exact congrArg replaceNot replaceFrom_pattern

theorem operators_not (ne : text.head? ≠ some '=') : operators ('!' :: text) = " not ".toList ++ operators text := by
  have first : replaceFrom ['=', '=', '='] ['=', '='] 0 ('!' :: text) =
    '!' :: replaceFrom ['=', '=', '='] ['=', '='] 0 text := replaceFrom_cons_of_ne (by decide)
  have passed : equalities ('!' :: text) = '!' :: equalities text := by
    rw [equalities, first, replaceFrom_cons_of_not_ahead, equalities]
    intro ahead
    have signed := head?_of_ahead (List.cons_prefix_cons.mp ahead).2
    exact ne (by rwa [head?_replaceFrom rfl] at signed)
  rw [operators_eq, passed, junctions_cons (by decide) (by decide),
    replaceNot_mark (head?_junctions_ne (by rwa [head?_equalities])), operators_eq]

/-! ### Stretches of code and literals -/

/-- A character that opens a string literal. -/
def IsQuote (c : Char) : Prop := c = '"' ∨ c = '\''

instance (c : Char) : Decidable (IsQuote c) := inferInstanceAs (Decidable (_ ∨ _))

/-- The code in front of segments. -/
def front : List Segment → List Char
  | .code text :: _ => text
  | _ => []

/-- The segments without the code in front. -/
def behind : List Segment → List Segment
  | .code _ :: segments => segments
  | segments => segments

theorem flatMap_inWords (segments : List Segment) : segments.flatMap Segment.inWords =
    operators (front segments) ++ (behind segments).flatMap Segment.inWords := by
  rcases segments with - | ⟨text | text, segments⟩ <;> rfl

theorem front_consCode (segments : List Segment) : front (consCode c segments) = c :: front segments := by
  rcases segments with - | ⟨text | text, segments⟩ <;> rfl

theorem behind_consCode (segments : List Segment) : behind (consCode c segments) = behind segments := by
  rcases segments with - | ⟨text | text, segments⟩ <;> rfl

theorem segmentsWithin_cons {fuel : Nat} (plain : ¬ IsQuote c) :
    segmentsWithin (fuel + 1) (c :: text) = consCode c (segmentsWithin fuel text) := by
  have none : literal? (c :: text) = none := if_neg plain
  rw [segmentsWithin, none]

theorem segmentsWithin_append {code : List Char} {fuel : Nat} (plain : ∀ c ∈ code, ¬ IsQuote c) :
    segmentsWithin (fuel + code.length) (code ++ text) = code.foldr consCode (segmentsWithin fuel text) := by
  induction code with
  | nil => rfl
  | cons c code ih =>
    rw [List.forall_mem_cons] at plain
    rw [List.length_cons, ← Nat.add_assoc, List.cons_append, segmentsWithin_cons plain.1, ih plain.2, List.foldr_cons]

theorem front_foldr_consCode (code : List Char) (segments : List Segment) :
    front (code.foldr consCode segments) = code ++ front segments := by
  induction code with
  | nil => rfl
  | cons c code ih => rw [List.foldr_cons, front_consCode, ih, List.cons_append]

theorem behind_foldr_consCode (code : List Char) (segments : List Segment) :
    behind (code.foldr consCode segments) = behind segments := by
  induction code with
  | nil => rfl
  | cons c code ih => rw [List.foldr_cons, behind_consCode, ih]

/-- Before the first literal stands the text itself. -/
theorem front_segmentsWithin (fuel : Nat) (text : List Char) :
    front (segmentsWithin fuel text) = [] ∨ (front (segmentsWithin fuel text)).head? = text.head? := by
  rcases fuel with - | fuel
  · exact .inr rfl
  rcases text with - | ⟨c, text⟩
  · exact .inl rfl
  rw [segmentsWithin]
  split
  · exact .inl rfl
  · rw [front_consCode]
    exact .inr rfl

/-- Characters that come out as these, given fuel for each of them. -/
def ComesOut (chars words : List Char) : Prop :=
  ∀ fuel, chars.length ≤ fuel → (segmentsWithin fuel chars).flatMap Segment.inWords = words

namespace ComesOut

variable {chars words : List Char}

theorem nil : ComesOut [] [] := by
  rintro (- | fuel) - <;> rfl

/-- A piece of code in front comes out as it does before all that begins like what follows. -/
theorem code (out : ComesOut chars words) {piece word : List Char} (plain : ∀ c ∈ piece, ¬ IsQuote c)
    (replaced : ∀ text : List Char, text = [] ∨ text.head? = chars.head? →
      operators (piece ++ text) = word ++ operators text) : ComesOut (piece ++ chars) (word ++ words) := by
  intro fuel enough
  rw [List.length_append] at enough
  obtain ⟨more, rfl⟩ := Nat.exists_eq_add_of_le (show piece.length ≤ fuel by omega)
  have found := out more (by omega)
  rw [Nat.add_comm, segmentsWithin_append plain, flatMap_inWords, front_foldr_consCode, behind_foldr_consCode,
    replaced _ (front_segmentsWithin more chars), List.append_assoc, ← flatMap_inWords, found]

theorem literal (out : ComesOut chars words) {c : Char} {piece : List Char}
    (found : literal? (c :: piece ++ chars) = some (c :: piece, chars)) :
    ComesOut (c :: piece ++ chars) (c :: piece ++ words) := by
  rintro (- | fuel) enough
  · cases enough
  · have rest := out fuel (by simp at enough; omega)
    rw [List.cons_append, segmentsWithin, ← List.cons_append, found]
    exact congrArg (c :: piece ++ ·) rest

end ComesOut

theorem inWords_of_comesOut {expression : String} {words : List Char} (out : ComesOut expression.toList words) :
    inWords expression = Text.trim words := by
  rw [inWords, segments, out _ (by simp)]

end TriggerFlow.Expr.Spelling
