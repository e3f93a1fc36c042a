import Mathlib.Data.List.Chain
import Mathlib.Data.List.DropRight
import TriggerFlow.Proofs.Expr.Lexeme

/-!
# From spellings to tokens

An expression is spelled with lexemes and blanks between them. Putting its operators into words puts the word of each
lexeme in its place, trimming takes blanks away at the ends, and the lexer then reads the tokens of the lexemes, if their
brackets match.
-/

namespace TriggerFlow.Expr

open Lexeme (Stops)

/-- A blank between two lexemes. -/
def IsGap (c : Char) : Prop := c = ' ' ∨ c = '\t' ∨ c = Char.ofNat 12

/-- A text that is spelled with these lexemes, and with blanks anywhere between them. -/
inductive Spelled : List Lexeme → List Char → Prop
  | done : Spelled [] []
  | blank {lexemes : List Lexeme} {text : List Char} {c : Char} (gap : IsGap c) (others : Spelled lexemes text) :
    Spelled lexemes (c :: text)
  | next {lexemes : List Lexeme} {text : List Char} (l : Lexeme) (others : Spelled lexemes text) :
    Spelled (l :: lexemes) (l.chars ++ text)

/-- A text that is made up of the words of these lexemes with blanks between them, of which none runs into the next. -/
inductive Worded : List Lexeme → List Char → Prop
  | done : Worded [] []
  | blank {lexemes : List Lexeme} {words : List Char} {c : Char} (gap : IsGap c) (others : Worded lexemes words) :
    Worded lexemes (c :: words)
  | next {lexemes : List Lexeme} {words : List Char} (l : Lexeme) (stops : l.Stops words)
    (others : Worded lexemes words) : Worded (l :: lexemes) (l.word ++ words)

/-! ### The edges of a word -/

/-- A character that is seen. -/
def Graphic (c : Char) : Prop := 32 < c.toNat ∧ c.toNat < 128

instance (c : Char) : Decidable (Graphic c) := inferInstanceAs (Decidable (_ ∧ _))

theorem not_isBlank_of_graphic {c : Char} (graphic : Graphic c) : Text.isBlank c = false := by
  obtain ⟨low, high⟩ := graphic
  simp only [Text.isBlank, Text.inRanges, List.any_cons, List.any_nil, Bool.or_false, Bool.or_eq_false_iff,
    Bool.and_eq_false_iff, decide_eq_false_iff_not]
  omega

theorem isBlank_of_isGap {c : Char} (gap : IsGap c) : Text.isBlank c = true := by
  obtain rfl | rfl | rfl := gap <;> decide

namespace Lexeme

theorem plain_of_identifier (id : Identifier) : ∀ c ∈ id.chars, Plain c := by
  refine List.forall_mem_cons.mpr ⟨?_, fun c mem => (id.goesOn c mem).imp_right .inl⟩
  exact id.begins.imp (fun alpha => by rw [Char.isAlphanum, alpha, Bool.true_or]) .inl

theorem numeral_ne_nil (n : Numeral) : n.chars ≠ [] := by
  obtain ⟨c, more, is, -⟩ := Lexer.begins_of_numeral n []
  rw [List.append_nil] at is
  simp [is]

theorem graphic_of_quote (text : Literal) : Graphic text.quote ∧ text.quote ≠ '#' ∧ text.quote ≠ '\\' := by
  obtain is | is := text.isQuote <;> rw [is] <;> decide

/-- A word begins with a character that is seen, and with none that begins something else. -/
theorem first_word (l : Lexeme) : ∃ c more, l.word = c :: more ∧ Graphic c ∧ c ≠ '#' ∧ c ≠ '\\' := by
  have plain {chars : List Char} (all : ∀ c ∈ chars, Plain c) (some_ : chars ≠ []) :
      ∃ c more, chars = c :: more ∧ Graphic c ∧ c ≠ '#' ∧ c ≠ '\\' := by
    obtain ⟨c, more, rfl⟩ := List.exists_cons_of_ne_nil some_
    have first := all c List.mem_cons_self
    exact ⟨c, more, rfl, first.graphic, first.ne (by decide), first.ne (by decide)⟩
  cases l with
  | name id => exact plain (plain_of_identifier id) (List.cons_ne_nil _ _)
  | number n => exact plain (Lexer.plain_of_numeral n) (numeral_ne_nil n)
  | text t => exact ⟨_, _, rfl, graphic_of_quote t⟩
  | compare c => cases c <;> exact ⟨_, _, rfl, by decide⟩
  | dot | opening | closing | not | both | either => exact ⟨_, _, rfl, by decide⟩

/-- A word ends with a character that is seen. -/
theorem last_word (l : Lexeme) : ∃ before c, l.word = before ++ [c] ∧ Graphic c := by
  have plain {chars : List Char} (all : ∀ c ∈ chars, Plain c) (some_ : chars ≠ []) :
      ∃ before c, chars = before ++ [c] ∧ Graphic c := by
    obtain ⟨before, c, rfl⟩ := (List.eq_nil_or_concat chars).resolve_left some_
    exact ⟨before, c, List.concat_eq_append, (all c (by simp)).graphic⟩
  cases l with
  | name id => exact plain (plain_of_identifier id) (List.cons_ne_nil _ _)
  | number n => exact plain (Lexer.plain_of_numeral n) (numeral_ne_nil n)
  | text t => exact ⟨t.quote :: t.body, t.quote, rfl, (graphic_of_quote t).1⟩
  | compare c =>
    cases c with
    | same => exact ⟨['='], '=', rfl, by decide⟩
    | notSame => exact ⟨['!'], '=', rfl, by decide⟩
    | lt => exact ⟨[], '<', rfl, by decide⟩
    | le => exact ⟨['<'], '=', rfl, by decide⟩
    | gt => exact ⟨[], '>', rfl, by decide⟩
    | ge => exact ⟨['>'], '=', rfl, by decide⟩
  | dot | opening | closing => exact ⟨[], _, rfl, by decide⟩
  | not => exact ⟨['n', 'o'], 't', rfl, by decide⟩
  | both => exact ⟨['a', 'n'], 'd', rfl, by decide⟩
  | either => exact ⟨['o'], 'r', rfl, by decide⟩

/-- No line ends in a word. -/
theorem on_line (l : Lexeme) : ∀ c ∈ l.word, c ≠ '\r' ∧ c ≠ Char.ofNat 0 := by
  have plain {chars : List Char} (all : ∀ c ∈ chars, Plain c) : ∀ c ∈ chars, c ≠ '\r' ∧ c ≠ Char.ofNat 0 :=
    fun c mem => ⟨(all c mem).ne (by decide), (all c mem).ne (by decide)⟩
  cases l with
  | name id => exact plain (plain_of_identifier id)
  | number n => exact plain (Lexer.plain_of_numeral n)
  | text t => exact fun c mem => (t.on_line c mem).2
  | compare c => cases c <;> simp [word, Comparison.symbol]
  | dot | opening | closing | not | both | either => simp [word, chars]

end Lexeme

/-! ### Trimming -/

section Trimming

variable {a b : List Char} {p : Char → Bool}

theorem rdropWhile_append_of_nil (all : b.rdropWhile p = []) : (a ++ b).rdropWhile p = a.rdropWhile p := by
  have none : b.reverse.dropWhile p = [] := by simpa [List.rdropWhile] using all
  rw [List.rdropWhile, List.reverse_append, List.dropWhile_append, none]
  rfl

theorem rdropWhile_append_of_ne_nil (some_ : b.rdropWhile p ≠ []) : (a ++ b).rdropWhile p = a ++ b.rdropWhile p := by
  have more : b.reverse.dropWhile p ≠ [] := by simpa [List.rdropWhile] using some_
  rw [List.rdropWhile, List.reverse_append, List.dropWhile_append, if_neg (by simpa using more), List.reverse_append,
    List.reverse_reverse, List.rdropWhile]

theorem head?_rdropWhile (some_ : b.rdropWhile p ≠ []) : (b.rdropWhile p).head? = b.head? := by
  obtain ⟨rest, is⟩ : b.rdropWhile p <+: b := List.rdropWhile_prefix p b
  obtain ⟨c, more, first⟩ := List.exists_cons_of_ne_nil some_
  rw [first] at is ⊢
  rw [← is]
  rfl

end Trimming

namespace Worded

variable {lexemes : List Lexeme} {words : List Char}

theorem eq_nil (worded : Worded lexemes []) : lexemes = [] := by
  generalize empty : ([] : List Char) = words at worded
  cases worded with
  | done => rfl
  | blank => cases empty
  | next l _ _ =>
    obtain ⟨c, more, is, -⟩ := l.first_word
    rw [is] at empty
    cases empty

/-- Blanks at the front do not matter, and what is left begins with a word. -/
theorem trimFront (worded : Worded lexemes words) : Worded lexemes (words.dropWhile Text.isBlank) ∧
    (lexemes ≠ [] → ∃ c more, words.dropWhile Text.isBlank = c :: more ∧ Graphic c ∧ c ≠ '#' ∧ c ≠ '\\') := by
  induction worded with
  | done => exact ⟨.done, fun some_ => absurd rfl some_⟩
  | blank gap _ ih => rwa [List.dropWhile_cons_of_pos (isBlank_of_isGap gap)]
  | @next lexemes words l stops others ih =>
    obtain ⟨c, more, is, graphic, other⟩ := l.first_word
    have stays : (l.word ++ words).dropWhile Text.isBlank = l.word ++ words := by
      rw [is, List.cons_append, List.dropWhile_cons_of_neg (by simp [not_isBlank_of_graphic graphic])]
    rw [stays]
    exact ⟨.next l stops others, fun _ => ⟨c, _, by rw [is]; rfl, graphic, other⟩⟩

/-- Blanks at the back do not matter. -/
theorem trimBack (worded : Worded lexemes words) : Worded lexemes (words.rdropWhile Text.isBlank) := by
  induction worded with
  | done => exact .done
  | @blank lexemes words c gap _ ih =>
    rw [← List.singleton_append]
    by_cases all : words.rdropWhile Text.isBlank = []
    · rw [rdropWhile_append_of_nil all]
      have none : [c].rdropWhile Text.isBlank = [] := by simp [List.rdropWhile, isBlank_of_isGap gap]
      rwa [none, ← all]
    · rw [rdropWhile_append_of_ne_nil all]
      exact ih.blank gap
  | @next lexemes words l stops _ ih =>
    by_cases all : words.rdropWhile Text.isBlank = []
    · obtain ⟨before, c, is, graphic⟩ := l.last_word
      have stays : l.word.rdropWhile Text.isBlank = l.word := by
        rw [is, List.rdropWhile_concat_neg _ _ _ (by simp [not_isBlank_of_graphic graphic])]
      rw [all] at ih
      rw [rdropWhile_append_of_nil all, stays, ih.eq_nil, ← List.append_nil l.word]
      exact .next l nofun .done
    · rw [rdropWhile_append_of_ne_nil all]
      exact .next l (fun c front => stops c (by rwa [head?_rdropWhile all] at front)) ih

theorem trim (worded : Worded lexemes words) (some_ : lexemes ≠ []) : Worded lexemes (Text.trim words) ∧
    ∃ c more, Text.trim words = c :: more ∧ Graphic c ∧ c ≠ '#' ∧ c ≠ '\\' := by
  obtain ⟨front, begins⟩ := worded.trimFront
  obtain ⟨c, more, is, graphic⟩ := begins some_
  have both : Worded lexemes (Text.trim words) := front.trimBack
  have left : (words.dropWhile Text.isBlank).rdropWhile Text.isBlank ≠ [] := fun none =>
    some_ (Worded.eq_nil (none ▸ both))
  obtain ⟨d, rest, first⟩ := List.exists_cons_of_ne_nil left
  have same := head?_rdropWhile left
  rw [first, is] at same
  exact ⟨both, c, rest, first.trans (by rw [Option.some.inj same]), graphic⟩

theorem on_line (worded : Worded lexemes words) : ∀ c ∈ words, c ≠ '\r' ∧ c ≠ Char.ofNat 0 := by
  induction worded with
  | done => exact nofun
  | blank gap _ ih => exact List.forall_mem_cons.mpr ⟨by obtain rfl | rfl | rfl := gap <;> decide, ih⟩
  | next l _ _ ih => exact List.forall_mem_append.mpr ⟨l.on_line, ih⟩

/-- There is room for every lexeme. -/
theorem length_le (worded : Worded lexemes words) : lexemes.length ≤ words.length := by
  induction worded with
  | done => exact Nat.le_refl _
  | blank _ _ ih => exact Nat.le_succ_of_le ih
  | next l _ _ ih =>
    obtain ⟨c, more, is, -⟩ := l.first_word
    rw [is, List.cons_append, List.length_cons, List.length_cons, List.length_append]
    omega

end Worded

/-! ### The tokens of words -/

namespace Lexer

variable {named : String → Option Char} {fuel : Nat} {state : State} {c : Char} {text : List Char}

theorem tokensWithin_blank (gap : IsGap c) (inLine : state.atLineStart = false) :
    tokensWithin named (fuel + 1) state (c :: text) = tokensWithin named fuel state text := by
  have blank : c = ' ' ∨ c = '\t' ∨ c.toNat = 12 := gap.imp_right (.imp_right fun is => by rw [is]; rfl)
  rw [tokensWithin.eq_def]
  simp only [inLine, Bool.false_eq_true, if_false, if_pos blank]

theorem tokensWithin_token {token : Token} {rest brackets : List Char}
    (graphic : Graphic c) (other : c ≠ '#' ∧ c ≠ '\\') (inLine : state.atLineStart = false)
    (read : token? named (c :: text) = some (token, rest)) (opens : afterToken? state.open_ token = some brackets) :
    tokensWithin named (fuel + 1) state (c :: text) =
      (tokensWithin named fuel { state with open_ := brackets, begun := true } rest).map (token :: ·) := by
  have blank : ¬ (c = ' ' ∨ c = '\t' ∨ c.toNat = 12) := by
    obtain ⟨low, -⟩ := graphic
    rintro (rfl | rfl | is)
    · exact absurd low (by decide)
    · exact absurd low (by decide)
    · omega
  have line : c ≠ '\n' := by
    rintro rfl
    exact absurd graphic (by decide)
  rw [tokensWithin.eq_def]
  simp only [inLine, Bool.false_eq_true, if_false, if_neg blank, if_neg other.1, if_neg line, if_neg other.2, read,
    Option.bind_eq_bind, Option.bind_some, opens]
  exact (Option.map_eq_bind ..).symm

theorem indentation?_graphic (graphic : Graphic c) (other : c ≠ '\\') :
    indentation? 0 0 (c :: text) = some (0, c :: text) := by
  have feed : c.toNat ≠ 12 := by
    obtain ⟨low, -⟩ := graphic
    omega
  have space : c ≠ ' ' := by
    rintro rfl
    exact absurd graphic (by decide)
  have tab : c ≠ '\t' := by
    rintro rfl
    exact absurd graphic (by decide)
  -- a backslash would have to be told apart by what follows it, so that there are two equations here
  by_cases lineEnd : ∃ d more, text = '\n' :: d :: more
  · obtain ⟨d, more, rfl⟩ := lineEnd
    rw [indentation?, if_neg feed, if_neg other, if_pos rfl] <;> assumption
  · rw [indentation?, if_neg feed, if_neg other, if_pos rfl]
    · exact space
    · exact tab
    · exact fun d more is => lineEnd ⟨d, more, is⟩

theorem unifyLines_of_not_mem (none : '\r' ∉ text) : unifyLines text = text := by
  induction text with
  | nil => rfl
  | cons c text ih =>
    obtain ⟨first, others⟩ := List.ne_and_not_mem_of_not_mem_cons none
    rw [unifyLines, ih others]
    · rintro rest rfl
      exact absurd rfl first
    · rintro rfl
      exact absurd rfl first

end Lexer

/-- The lexer reads the words of lexemes as their tokens, if their brackets match. -/
theorem Worded.tokensWithin (named : String → Option Char) {lexemes : List Lexeme} {words : List Char}
    (worded : Worded lexemes words) : ∀ {fuel : Nat} {state : Lexer.State}, words.length < fuel →
      state.atLineStart = false → (lexemes.map Lexeme.token).foldlM Lexer.afterToken? state.open_ = some [] →
      Lexer.tokensWithin named fuel state words = some (lexemes.map Lexeme.token) := by
  induction worded with
  | done =>
    rintro (- | fuel) state enough inLine closed
    · cases enough
    · have none : state.open_ = [] := Option.some.inj closed
      rw [Lexer.tokensWithin, inLine, if_neg Bool.false_ne_true, none]
      rfl
  | blank gap _ ih =>
    rintro (- | fuel) state enough inLine closed
    · cases enough
    · rw [Lexer.tokensWithin_blank gap inLine]
      exact ih (by simpa using enough) inLine closed
  | @next lexemes words l stops _ ih =>
    rintro (- | fuel) state enough inLine closed
    · cases enough
    · rw [List.map_cons, List.foldlM_cons, Option.bind_eq_bind, Option.bind_eq_some_iff] at closed
      obtain ⟨brackets, opens, closed⟩ := closed
      obtain ⟨c, more, is, graphic, other⟩ := l.first_word
      have read := l.token?_lexeme named stops
      rw [List.length_append] at enough
      rw [is, List.cons_append] at read ⊢
      have more := @ih fuel { state with open_ := brackets, begun := true } (by simp [is] at enough; omega) inLine closed
      rw [Lexer.tokensWithin_token graphic other inLine read opens, more]
      rfl

/-- Blanks around them do not matter. -/
theorem Worded.tokens? (named : String → Option Char) {lexemes : List Lexeme} {words : List Char}
    (worded : Worded lexemes words) (some_ : lexemes ≠ [])
    (closed : (lexemes.map Lexeme.token).foldlM Lexer.afterToken? [] = some []) :
    Expr.tokens? named (Text.trim words) = some (lexemes.map Lexeme.token) := by
  obtain ⟨trimmed, c, more, is, graphic, other⟩ := worded.trim some_
  have lines : Lexer.unifyLines (Text.trim words) = Text.trim words :=
    Lexer.unifyLines_of_not_mem fun mem => (trimmed.on_line _ mem).1 rfl
  have read := @trimmed.tokensWithin named _ _ (3 * (Text.trim words).length + 2) ⟨[], false, false, false⟩ (by omega) rfl
    closed
  have column : Lexer.indentation? 0 0 (c :: more) = some (0, c :: more) := Lexer.indentation?_graphic graphic other.2
  have line : c ≠ '\n' := by
    rintro rfl
    exact absurd graphic (by decide)
  rw [is] at read lines ⊢
  rw [Expr.tokens?, lines, Lexer.tokensWithin.eq_def]
  simpa [column, other.1, line] using read

/-! ### The words of a spelling -/

namespace Lexeme

/-- Whether an operand may begin with it. -/
def opens : Lexeme → Bool
  | .name _ | .number _ | .text _ | .opening | .not => true
  | _ => false

/-- Whether an operand may end with it. -/
def shuts : Lexeme → Bool
  | .name _ | .number _ | .text _ | .closing => true
  | _ => false

/-- Whether it is an operator that an equality sign must not follow at once. -/
def isSign : Lexeme → Bool
  | .not | .compare _ => true
  | _ => false

/-- Two lexemes that do not run into one another, neither as they are written nor as words. -/
def Meets (a b : Lexeme) : Prop :=
  (a.isPadded = false → ∀ c ∈ b.padded.head?, a.goesOn c = false) ∧ (a.isSign = true → b.chars.head? ≠ some '=')

theorem goesOn_gap (l : Lexeme) {c : Char} (gap : IsGap c) : l.goesOn c = false := by
  cases l with
  | text t =>
    have ne : c ≠ t.quote := by
      rintro rfl
      exact absurd (isBlank_of_isGap gap) (by simp [not_isBlank_of_graphic (graphic_of_quote t).1])
    simpa [goesOn] using ne
  | compare d => obtain rfl | rfl | rfl := gap <;> cases d <;> rfl
  | name | number | dot | opening | closing | not | both | either => obtain rfl | rfl | rfl := gap <;> rfl

/-- After an operand stands a sign of its own, or a point. -/
theorem meets_of_shuts {a b : Lexeme} (shuts : a.shuts = true) (opens : b.opens = false)
    (point : ∀ n, a = .number n → b ≠ .dot) : a.Meets b := by
  have heads (form : Char → Bool) (all : ∀ c ∈ [')', ' ', '=', '!', '<', '>'], form c = false)
      (dot : b = .dot → form '.' = false) : ∀ c ∈ b.padded.head?, form c = false := by
    intro c front
    cases b with
    | name | number | text | opening | not => cases opens
    | dot => exact Option.some.inj front ▸ dot rfl
    | closing | both | either => exact Option.some.inj front ▸ all _ (by decide)
    | compare d => cases d <;> exact Option.some.inj front ▸ all _ (by decide)
  have unsigned : a.isSign = false := by cases a <;> first | rfl | cases shuts
  refine ⟨fun _ => ?_, fun sign => absurd (unsigned.symm.trans sign) Bool.false_ne_true⟩
  cases a with
  | dot | opening | not | both | either | compare => cases shuts
  | name id =>
    exact heads (fun c => Lexer.isNameChar c || c = '"' || c = '\'') (by simp [Lexer.isNameChar]) fun _ => by decide
  | number n =>
    exact heads (fun c => Lexer.isNameChar c || c = '.') (by simp [Lexer.isNameChar]) fun is => absurd is (point n rfl)
  | closing => exact fun _ _ => rfl
  | text t =>
    have other {c : Char} (ne : c ≠ '"' ∧ c ≠ '\'') : (Lexeme.text t).goesOn c = false := by
      obtain is | is := t.isQuote <;> simp [goesOn, is, ne]
    refine heads _ (fun c mem => other ?_) fun _ => other (by decide)
    simp only [List.mem_cons, List.not_mem_nil, or_false] at mem
    obtain rfl | rfl | rfl | rfl | rfl | rfl := mem <;> decide

/-- What an operand begins with, if not with a negation. -/
theorem head_of_opens {b : Lexeme} (opens : b.opens = true) (other : b ≠ .not) :
    b.padded = b.chars ∧ ∀ c ∈ b.chars.head?, Plain c ∨ c = '"' ∨ c = '\'' ∨ c = '(' := by
  cases b with
  | dot | closing | both | either | compare => cases opens
  | not => exact absurd rfl other
  | name id => exact ⟨rfl, fun c front => .inl (plain_of_identifier id c (List.mem_of_mem_head? front))⟩
  | number n => exact ⟨rfl, fun c front => .inl (Lexer.plain_of_numeral n c (List.mem_of_mem_head? front))⟩
  | text t => exact ⟨rfl, fun c front => .inr (Option.some.inj front ▸ t.isQuote.imp_right .inl)⟩
  | opening => exact ⟨rfl, fun c front => .inr (.inr (.inr (Option.some.inj front).symm))⟩

/-- Before an operand. -/
theorem meets_of_opens {a b : Lexeme} (shuts : a.shuts = false) (dot : a ≠ .dot) (opens : b.opens = true) :
    a.Meets b := by
  by_cases negation : b = .not
  · subst negation
    refine ⟨fun padded c front => ?_, fun _ => by decide⟩
    obtain rfl : ' ' = c := Option.some.inj front
    exact a.goesOn_gap (.inl rfl)
  obtain ⟨same, heads⟩ := head_of_opens opens negation
  have other {d : Char} (ne : ¬ Plain d ∧ d ≠ '"' ∧ d ≠ '\'' ∧ d ≠ '(') (c : Char) (front : c ∈ b.chars.head?) :
      c ≠ d := by
    rintro rfl
    exact absurd (heads c front) (by simp [ne])
  refine ⟨fun padded c front => ?_, fun _ is => other (by decide) _ is rfl⟩
  rw [same] at front
  have equal : c ≠ '=' := other (by decide) c front
  have greater : c ≠ '>' := other (by decide) c front
  cases a with
  | name | number | text | closing => cases shuts
  | dot => exact absurd rfl dot
  | opening => rfl
  | not | both | either => cases padded
  | compare d =>
    cases d with
    | same | notSame | le | ge => rfl
    | lt => simpa [goesOn, equal, greater] using other (by decide) c front
    | gt => simp [goesOn, equal, greater]

theorem meets_dot (id : Identifier) : dot.Meets (.name id) := by
  refine ⟨fun _ c front => ?_, nofun⟩
  obtain rfl : id.first = c := Option.some.inj front
  obtain letter | is := id.begins
  · have point : id.first ≠ '.' := by
      intro is
      rw [is] at letter
      cases letter
    simp [goesOn, Lexer.not_isDigit_of_isAlpha letter, point]
  · simp [goesOn, is]

end Lexeme

/-- What stands in front of a text, if these things stand in front of the lexemes. -/
def Fronts (form : Lexeme → List Char) (lexemes : List Lexeme) (text : List Char) : Prop :=
  ∀ c ∈ text.head?, IsGap c ∨ ∃ l ∈ lexemes.head?, c ∈ (form l).head?

theorem fronts_cons {form : Lexeme → List Char} {lexemes : List Lexeme} {c : Char} {text : List Char} (gap : IsGap c) :
    Fronts form lexemes (c :: text) := fun _ front => .inl (Option.some.inj front ▸ gap)

theorem fronts_append {form : Lexeme → List Char} {lexemes : List Lexeme} {l : Lexeme} {text : List Char}
    (some_ : form l ≠ []) : Fronts form (l :: lexemes) (form l ++ text) := by
  obtain ⟨c, more, is⟩ := List.exists_cons_of_ne_nil some_
  rw [is]
  exact fun d front => .inr ⟨l, rfl, by rw [is]; exact front⟩

/-- A lexeme begins with a character that is seen. -/
theorem Lexeme.first_char (l : Lexeme) : ∃ c more, l.chars = c :: more ∧ Graphic c := by
  cases l with
  | compare c => cases c <;> exact ⟨_, _, rfl, by decide⟩
  | not | both | either => exact ⟨_, _, rfl, by decide⟩
  | name id => exact (first_word (.name id)).imp fun c ⟨more, is, graphic, _⟩ => ⟨more, is, graphic⟩
  | number n => exact (first_word (.number n)).imp fun c ⟨more, is, graphic, _⟩ => ⟨more, is, graphic⟩
  | text t => exact (first_word (.text t)).imp fun c ⟨more, is, graphic, _⟩ => ⟨more, is, graphic⟩
  | dot | opening | closing => exact ⟨_, _, rfl, by decide⟩

theorem Lexeme.chars_ne_nil (l : Lexeme) : l.chars ≠ [] := by
  obtain ⟨c, more, is, -⟩ := l.first_char
  rw [is]
  nofun

theorem Lexeme.padded_ne_nil (l : Lexeme) : l.padded ≠ [] := by
  cases l with
  | number n => exact numeral_ne_nil n
  | compare c => cases c <;> exact List.cons_ne_nil _ _
  | name | text | dot | opening | closing | not | both | either => exact List.cons_ne_nil _ _

theorem Spelled.fronts {lexemes : List Lexeme} {text : List Char} (spelled : Spelled lexemes text) :
    Fronts Lexeme.chars lexemes text := by
  cases spelled with
  | done => exact nofun
  | blank gap _ => exact fronts_cons gap
  | next l _ => exact fronts_append l.chars_ne_nil

/-- There is room for every lexeme. -/
theorem Spelled.length_le {lexemes : List Lexeme} {text : List Char} (spelled : Spelled lexemes text) :
    lexemes.length ≤ text.length := by
  induction spelled with
  | done => exact Nat.le_refl _
  | blank _ _ ih => exact Nat.le_succ_of_le ih
  | next l _ ih =>
    have := List.length_pos_iff.mpr l.chars_ne_nil
    rw [List.length_cons, List.length_append]
    omega

/-- A text with a lexeme is not blank. -/
theorem Spelled.not_blank {lexemes : List Lexeme} {text : List Char} (spelled : Spelled lexemes text)
    (some_ : lexemes ≠ []) : text.all Text.isBlank = false := by
  induction spelled with
  | done => exact absurd rfl some_
  | blank _ _ ih => rw [List.all_cons, ih some_, Bool.and_false]
  | next l _ _ =>
    obtain ⟨c, more, is, graphic⟩ := l.first_char
    rw [is, List.cons_append, List.all_cons, not_isBlank_of_graphic graphic, Bool.false_and]

open Spelling in
/-- A lexeme comes out as its word. -/
theorem comesOut_lexeme (l : Lexeme) {text words : List Char} (out : ComesOut text words)
    (sign : l.isSign = true → text.head? ≠ some '=') : ComesOut (l.chars ++ text) (l.padded ++ words) := by
  have ahead (signed : l.isSign = true) {rest : List Char} (same : rest = [] ∨ rest.head? = text.head?) :
      rest.head? ≠ some '=' := by
    obtain rfl | same := same
    · exact nofun
    · rw [same]
      exact sign signed
  have plain {chars : List Char} (all : ∀ c ∈ chars, Plain c) : ComesOut (chars ++ text) (chars ++ words) := by
    refine out.code (fun c mem => ?_) fun rest _ => operators_append fun c mem => ?_
    · exact fun quote => by obtain rfl | rfl := quote <;> exact absurd (all _ mem) (by decide)
    · exact ⟨(all c mem).ne (by decide), (all c mem).ne (by decide), (all c mem).ne (by decide),
        (all c mem).ne (by decide)⟩
  have code {piece word : List Char} (unquoted : piece.all (fun c => !decide (IsQuote c)) = true)
      (replaced : ∀ rest : List Char, rest = [] ∨ rest.head? = text.head? →
        operators (piece ++ rest) = word ++ operators rest) : ComesOut (piece ++ text) (word ++ words) :=
    out.code (fun c mem => by simpa using List.all_eq_true.mp unquoted c mem) replaced
  cases l with
  | name id => exact plain (Lexeme.plain_of_identifier id)
  | number n => exact plain (Lexer.plain_of_numeral n)
  | text t => exact out.literal t.literal?_chars
  | dot | opening | closing => exact code rfl fun rest _ => operators_cons (by decide)
  | not => exact code rfl fun rest same => operators_not (ahead rfl same)
  | both => exact code rfl fun rest _ => operators_both
  | either => exact code rfl fun rest _ => operators_either
  | compare c =>
    cases c with
    | same => exact code rfl fun rest _ => operators_same
    | notSame => exact code rfl fun rest same => operators_notSame (ahead rfl same)
    | lt | gt => exact code rfl fun rest _ => operators_cons (by decide)
    | le | ge => exact code rfl fun rest same => operators_sign (by decide) (ahead rfl same)

/-- The operators of a spelling come out as words, and all else as it is. -/
theorem Spelled.worded {lexemes : List Lexeme} {text : List Char} (spelled : Spelled lexemes text)
    (meets : lexemes.IsChain Lexeme.Meets) :
    ∃ words, Spelling.ComesOut text words ∧ Worded lexemes words ∧ Fronts Lexeme.padded lexemes words := by
  induction spelled with
  | done => exact ⟨[], .nil, .done, nofun⟩
  | @blank lexemes text c gap _ ih =>
    obtain ⟨words, out, worded, fronts⟩ := ih meets
    have inert : ¬ Spelling.IsQuote c ∧ Spelling.Inert c := by obtain rfl | rfl | rfl := gap <;> decide
    have kept : Spelling.ComesOut ([c] ++ text) ([c] ++ words) :=
      out.code (List.forall_mem_singleton.mpr inert.1) fun rest _ => Spelling.operators_cons inert.2
    exact ⟨c :: words, kept, .blank gap worded, fronts_cons gap⟩
  | @next lexemes text l others ih =>
    rw [List.isChain_cons] at meets
    obtain ⟨words, out, worded, fronts⟩ := ih meets.2
    refine ⟨l.padded ++ words, comesOut_lexeme l out ?_, ?_, fronts_append l.padded_ne_nil⟩
    · intro sign is
      obtain gap | ⟨next, first, front⟩ := others.fronts _ is
      · exact absurd gap (by simp [IsGap])
      · exact (meets.1 next first).2 sign front
    · cases padded : l.isPadded with
      | false =>
        rw [Lexeme.padded, padded, if_neg Bool.false_ne_true]
        refine .next l (fun c front => ?_) worded
        obtain gap | ⟨next, first, front⟩ := fronts c front
        · exact l.goesOn_gap gap
        · exact (meets.1 next first).1 padded c front
      | true =>
        rw [Lexeme.padded, padded, if_pos rfl]
        rw [List.cons_append, List.append_assoc]
        have stops : l.Stops (' ' :: words) := fun c front => Option.some.inj front ▸ l.goesOn_gap (.inl rfl)
        exact .blank (.inl rfl) (.next l stops (worded.blank (.inl rfl)))

/-- A spelling is read as the tokens of its lexemes. -/
theorem Spelled.tokens? (named : String → Option Char) {lexemes : List Lexeme} {expression : String}
    (spelled : Spelled lexemes expression.toList) (meets : lexemes.IsChain Lexeme.Meets) (some_ : lexemes ≠ [])
    (closed : (lexemes.map Lexeme.token).foldlM Lexer.afterToken? [] = some []) :
    Expr.tokens? named (Spelling.inWords expression) = some (lexemes.map Lexeme.token) ∧
      Char.ofNat 0 ∉ Spelling.inWords expression ∧ lexemes.length ≤ (Spelling.inWords expression).length := by
  obtain ⟨words, out, worded, -⟩ := spelled.worded meets
  have trimmed := (worded.trim some_).1
  rw [Spelling.inWords_of_comesOut out]
  exact ⟨worded.tokens? named some_ closed, fun mem => (trimmed.on_line _ mem).2 rfl, trimmed.length_le⟩

end TriggerFlow.Expr
