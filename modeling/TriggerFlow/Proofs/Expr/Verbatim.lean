import TriggerFlow.Proofs.Expr.Literal
import TriggerFlow.Proofs.Expr.Spelling

/-!
# String literals are left alone

An expression in which stretches of code and string literals alternate comes apart into just these: no stretch holds a
quote, and a literal goes up to the quote that closes it, whatever stands inside. So the operators of each stretch are
put into words on their own, and a literal stands in the result as it stood before. Whether the code and the literals
are well formed does not matter here.
-/

namespace TriggerFlow.Expr.Spelling

/-- A stretch of code, in which there is no quote. It may be empty. -/
structure Code where
  chars : List Char
  unquoted : ∀ c ∈ chars, ¬ IsQuote c

/-- A string literal from quote to quote. Inside, line ends and quotes of the other kind stand for themselves; a quote
of its own kind has a backslash before it, and no line ends behind a backslash. -/
structure Quotation where
  quote : Char
  body : List Char
  isQuote : IsQuote quote
  inside : Inside quote body

def Quotation.chars (q : Quotation) : List Char := q.quote :: (q.body ++ [q.quote])

/-- Code, and any number of literals with code behind each of them. -/
structure Alternation where
  code : Code
  others : List (Quotation × Code)

namespace Alternation

def chars (a : Alternation) : List Char := a.code.chars ++ a.others.flatMap fun part => part.1.chars ++ part.2.chars

/-- The text with the operators of each stretch of code in words. -/
def inWords (a : Alternation) : List Char :=
  operators a.code.chars ++ a.others.flatMap fun part => part.1.chars ++ operators part.2.chars

end Alternation

/-- Whether there is anything in a segment. -/
def Segment.hasContent : Segment → Bool
  | .code [] => false
  | _ => true

/-- A stretch of code as a segment, if there is anything in it. -/
def Code.segments (code : Code) : List Segment := [Segment.code code.chars].filter Segment.hasContent

/-- The stretches and the literals in order. -/
def Alternation.segments (a : Alternation) : List Segment :=
  a.code.segments ++ a.others.flatMap fun part => .literal part.1.chars :: part.2.segments

/-! ### Where an alternation is cut -/

/-- The rewriting finds a literal as a whole. -/
theorem Quotation.literal?_chars (q : Quotation) (rest : List Char) :
    literal? (q.chars ++ rest) = some (q.chars, rest) := by
  have opens : q.quote = '"' ∨ q.quote = '\'' := q.isQuote
  have mark : q.quote ≠ '\\' := by
    obtain is | is := opens <;> rw [is] <;> decide
  rw [chars, List.cons_append, List.append_assoc, literal?, if_pos opens, List.singleton_append,
    q.inside.literalRest? mark]
  rfl

/-- Characters that are cut into these segments, given fuel for each of them. -/
def ComesApart (chars : List Char) (segments : List Segment) : Prop :=
  ∀ fuel, chars.length ≤ fuel → (segmentsWithin fuel chars).filter Segment.hasContent = segments

/-- Segments with no code in front. -/
def Closed (segments : List Segment) : Prop := ∀ text rest, segments ≠ .code text :: rest

/-- The last character of a stretch opens it, because no code follows. -/
theorem consCode_closed (c : Char) {segments : List Segment} (closed : Closed (segments.filter Segment.hasContent)) :
    ∃ rest, consCode c segments = .code [c] :: rest ∧
      rest.filter Segment.hasContent = segments.filter Segment.hasContent := by
  rcases segments with - | ⟨(- | ⟨d, text⟩) | text, rest⟩
  · exact ⟨[], rfl, rfl⟩
  · exact ⟨rest, rfl, rfl⟩
  · exact absurd rfl (closed (d :: text) _)
  · exact ⟨_, rfl, rfl⟩

theorem foldr_consCode {segments : List Segment} (closed : Closed (segments.filter Segment.hasContent)) (c : Char)
    (chars : List Char) : ∃ rest, (c :: chars).foldr consCode segments = .code (c :: chars) :: rest ∧
      rest.filter Segment.hasContent = segments.filter Segment.hasContent := by
  induction chars generalizing c with
  | nil => exact consCode_closed c closed
  | cons d chars ih =>
    obtain ⟨rest, is, left⟩ := ih d
    exact ⟨rest, by rw [List.foldr_cons, is]; rfl, left⟩

namespace ComesApart

variable {chars : List Char} {segments : List Segment}

theorem nil : ComesApart [] [] := by
  rintro (- | fuel) - <;> rfl

theorem code (apart : ComesApart chars segments) (closed : Closed segments) (code : Code) :
    ComesApart (code.chars ++ chars) (code.segments ++ segments) := by
  intro fuel enough
  rw [List.length_append] at enough
  obtain ⟨more, rfl⟩ := Nat.exists_eq_add_of_le' (show code.chars.length ≤ fuel by omega)
  have others := apart more (by omega)
  rw [segmentsWithin_append code.unquoted, Code.segments]
  rcases code.chars with - | ⟨c, stretch⟩
  · exact others
  · obtain ⟨rest, is, left⟩ := foldr_consCode (others.symm ▸ closed) c stretch
    rw [is, ← others, ← left]
    rfl

theorem literal (apart : ComesApart chars segments) (q : Quotation) :
    ComesApart (q.chars ++ chars) (.literal q.chars :: segments) := by
  rintro (- | fuel) enough
  · cases enough
  · have found := q.literal?_chars chars
    have rest := apart fuel (by simp only [Quotation.chars, List.length_append, List.length_cons] at enough; omega)
    rw [Quotation.chars, List.cons_append] at found ⊢
    rw [segmentsWithin, found]
    exact congrArg _ rest

end ComesApart

theorem comesApart_alternation (a : Alternation) : ComesApart a.chars a.segments := by
  have others (parts : List (Quotation × Code)) :
      ComesApart (parts.flatMap fun part => part.1.chars ++ part.2.chars)
        (parts.flatMap fun part => .literal part.1.chars :: part.2.segments) ∧
      Closed (parts.flatMap fun part => .literal part.1.chars :: part.2.segments) := by
    induction parts with
    | nil => exact ⟨.nil, nofun⟩
    | cons part parts ih =>
      obtain ⟨apart, closed⟩ := ih
      refine ⟨?_, by simp [Closed]⟩
      rw [List.flatMap_cons, List.flatMap_cons, List.append_assoc, List.cons_append]
      exact (apart.code closed part.2).literal part.1
  obtain ⟨apart, closed⟩ := others a.others
  exact apart.code closed a.code

/-! ### What comes out -/

/-- An empty stretch of code comes out as nothing. -/
theorem flatMap_inWords_filter (segments : List Segment) :
    (segments.filter Segment.hasContent).flatMap Segment.inWords = segments.flatMap Segment.inWords := by
  induction segments with
  | nil => rfl
  | cons segment segments ih =>
    rcases segment with (- | ⟨c, text⟩) | text
    · exact ih
    · exact congrArg (operators (c :: text) ++ ·) ih
    · exact congrArg (text ++ ·) ih

theorem Code.inWords_segments (code : Code) : code.segments.flatMap Segment.inWords = operators code.chars := by
  rw [segments, flatMap_inWords_filter, List.flatMap_singleton]
  rfl

/-- An alternation of code and literals is cut into its stretches and its literals. Each stretch is rewritten on its
own, the literals stand where they stood, and then the blanks at both ends are taken away. -/
theorem literals_verbatim (a : Alternation) :
    (segments a.chars).filter Segment.hasContent = a.segments ∧
      inWords (String.ofList a.chars) = Text.trim a.inWords := by
  have cut : (segments a.chars).filter Segment.hasContent = a.segments := comesApart_alternation a _ (Nat.le_refl _)
  have each (part : Quotation × Code) :
      (Segment.literal part.1.chars :: part.2.segments).flatMap Segment.inWords =
        part.1.chars ++ operators part.2.chars := by
    rw [List.flatMap_cons, Code.inWords_segments]
    rfl
  refine ⟨cut, ?_⟩
  rw [Spelling.inWords, String.toList_ofList, ← flatMap_inWords_filter, cut, Alternation.segments,
    List.flatMap_append, Code.inWords_segments, List.flatMap_assoc, Alternation.inWords]
  simp only [each]

-- an escaped quote, two literals in a row, and operators on both sides of every quote
example : inWords "a===\"&& \\\"||\"'!'||!b" = "a==\"&& \\\"||\"'!' or  not b".toList := by decide +kernel

end TriggerFlow.Expr.Spelling
