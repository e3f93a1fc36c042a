import TriggerFlow.Expr.Spelling
import TriggerFlow.Proofs.Expr.Numeral

/-!
# String literals

How texts are written in an expression: between single or double quotes, with characters that stand for themselves and
with the escapes that both families of spellings know. A literal is recognised twice, when operators are put into words
and when the tokens are read, and both agree on where it ends.
-/

namespace TriggerFlow.Expr

/-! ### What is written -/

/-- The letters that stand for a character after a backslash. -/
def letterEscapes : List (Char × Char) :=
  [('\\', '\\'), ('\'', '\''), ('"', '"'), ('n', '\n'), ('t', '\t'), ('r', '\r'), ('b', Char.ofNat 8),
    ('f', Char.ofNat 12), ('v', Char.ofNat 11)]

/-- The number that hexadecimal digits stand for. -/
def hexNumber (digits : List Char) : Nat := digits.foldl (fun n d => 16 * n + (Text.hexDigit? d).getD 0) 0

/-- A character as it is written between quotes: as itself, by a letter after a backslash, or by its code in two
hexadecimal digits or in four. -/
inductive Glyph where
  | plain (c : Char) (inLine : c ≠ '\\' ∧ c ≠ '\n' ∧ c ≠ '\r' ∧ c ≠ Char.ofNat 0)
  | letter (c value : Char) (known : (c, value) ∈ letterEscapes)
  | code (wide : Bool) (digits : List Char) (count : digits.length = if wide then 4 else 2)
    (hexadecimal : ∀ d ∈ digits, (Text.hexDigit? d).isSome = true) (scalar : (hexNumber digits).isValidChar)

def Glyph.chars : Glyph → List Char
  | .plain c _ => [c]
  | .letter c .. => ['\\', c]
  | .code wide digits .. => '\\' :: (if wide then 'u' else 'x') :: digits

def Glyph.value : Glyph → Char
  | .plain c _ => c
  | .letter _ value _ => value
  | .code _ digits .. => Char.ofNat (hexNumber digits)

/-- A text as it is written. The quote that encloses it does not stand for itself inside. -/
structure Literal where
  quote : Char
  glyphs : List Glyph
  isQuote : quote = '"' ∨ quote = '\''
  inside : ∀ c inLine, .plain c inLine ∈ glyphs → c ≠ quote

def Literal.body (l : Literal) : List Char := l.glyphs.flatMap Glyph.chars

def Literal.chars (l : Literal) : List Char := l.quote :: (l.body ++ [l.quote])

def Literal.value (l : Literal) : List Char := l.glyphs.map Glyph.value

/-! ### Where a literal ends -/

/-- Characters between quotes: no quote and no backslash, but for a backslash with another character of the line. -/
inductive Inside (quote : Char) : List Char → Prop
  | nil : Inside quote []
  | single {c : Char} {rest : List Char} (plain : c ≠ quote ∧ c ≠ '\\') (others : Inside quote rest) :
    Inside quote (c :: rest)
  | pair {c : Char} {rest : List Char} (inLine : c ≠ '\n') (others : Inside quote rest) : Inside quote ('\\' :: c :: rest)

namespace Inside

variable {quote : Char} {body rest : List Char}

theorem append (inside : Inside quote body) (more : Inside quote rest) : Inside quote (body ++ rest) := by
  induction inside with
  | nil => exact more
  | single plain _ ih => exact ih.single plain
  | pair inLine _ ih => exact ih.pair inLine

theorem of_singles (plain : ∀ c ∈ body, c ≠ quote ∧ c ≠ '\\') : Inside quote body := by
  induction body with
  | nil => exact nil
  | cons c body ih =>
    rw [List.forall_mem_cons] at plain
    exact (ih plain.2).single plain.1

theorem head?_ne (inside : Inside quote body) (mark : quote ≠ '\\') : body.head? ≠ some quote := by
  cases inside with
  | nil => exact nofun
  | single plain _ => exact fun is => plain.1 (Option.some.inj is)
  | pair _ _ => exact fun is => mark (Option.some.inj is).symm

theorem literalRest? (inside : Inside quote body) (mark : quote ≠ '\\') :
    Spelling.literalRest? quote (body ++ quote :: rest) = some (body ++ [quote], rest) := by
  induction inside with
  | nil => cases rest <;> simp [Spelling.literalRest?]
  | @single c body plain _ ih =>
    obtain ⟨d, more, is⟩ := List.exists_cons_of_ne_nil (l := body ++ quote :: rest) (by simp)
    rw [List.cons_append, is, Spelling.literalRest?, if_neg plain.1, if_neg plain.2, ← is, ih]
    rfl
  | pair inLine _ ih =>
    rw [List.cons_append, List.cons_append, Spelling.literalRest?, if_neg mark.symm, if_pos rfl, if_neg inLine, ih]
    rfl

theorem singleBody? (inside : Inside quote body) (mark : quote ≠ '\\') (inLine : '\n' ∉ body) :
    Lexer.singleBody? quote (body ++ quote :: rest) = some (body, rest) := by
  induction inside with
  | nil =>
    rw [List.nil_append, Lexer.singleBody?, if_pos rfl]
    rintro c more rfl
    exact absurd rfl mark
  | single plain _ ih =>
    obtain ⟨first, others⟩ := List.ne_and_not_mem_of_not_mem_cons inLine
    rw [List.cons_append, Lexer.singleBody?, if_neg plain.1, if_neg first.symm, ih others]
    · rfl
    · rintro c more rfl
      exact absurd rfl plain.2
  | pair _ _ ih =>
    rw [List.cons_append, List.cons_append, Lexer.singleBody?, ih (by simp_all)]
    rfl

end Inside

/-! ### What is read -/

namespace Glyph

variable {quote : Char} {rest : List Char}

theorem digit_ne {digits : List Char} (hexadecimal : ∀ d ∈ digits, (Text.hexDigit? d).isSome = true) {c : Char}
    (other : Text.hexDigit? c = none) : ∀ d ∈ digits, d ≠ c := by
  rintro d mem rfl
  simpa [other] using hexadecimal d mem

/-- What a glyph is written with belongs on the line of its literal. -/
theorem on_line (glyph : Glyph) : ∀ c ∈ glyph.chars, c ≠ '\n' ∧ c ≠ '\r' ∧ c ≠ Char.ofNat 0 := by
  cases glyph with
  | plain c inLine => exact List.forall_mem_singleton.mpr inLine.2
  | letter c value known =>
    have allowed : ∀ pair ∈ letterEscapes, pair.1 ≠ '\n' ∧ pair.1 ≠ '\r' ∧ pair.1 ≠ Char.ofNat 0 := by decide
    exact List.forall_mem_cons.mpr ⟨by decide, List.forall_mem_singleton.mpr (allowed _ known)⟩
  | code wide digits count hexadecimal scalar =>
    refine List.forall_mem_cons.mpr ⟨by decide, List.forall_mem_cons.mpr ⟨by cases wide <;> decide, fun d mem => ?_⟩⟩
    exact ⟨digit_ne hexadecimal (by decide) d mem, digit_ne hexadecimal (by decide) d mem,
      digit_ne hexadecimal (by decide) d mem⟩

theorem inside (isQuote : quote = '"' ∨ quote = '\'') (glyph : Glyph)
    (other : ∀ c inLine, glyph = .plain c inLine → c ≠ quote) : Inside quote glyph.chars := by
  cases glyph with
  | plain c inLine => exact .single ⟨other c inLine rfl, inLine.1⟩ .nil
  | letter c value known =>
    have allowed : ∀ pair ∈ letterEscapes, pair.1 ≠ '\n' := by decide
    exact .pair (allowed _ known) .nil
  | code wide digits count hexadecimal scalar =>
    refine .pair (by cases wide <;> decide) (.of_singles fun d mem => ⟨?_, digit_ne hexadecimal (by decide) d mem⟩)
    obtain rfl | rfl := isQuote <;> exact digit_ne hexadecimal (by decide) d mem

theorem escape?_letter (named : String → Option Char) {c value : Char} (known : (c, value) ∈ letterEscapes) :
    Lexer.escape? named (c :: rest) = some ([value], rest) := by
  simp only [letterEscapes, List.mem_cons, Prod.mk.injEq, List.not_mem_nil, or_false] at known
  obtain ⟨rfl, rfl⟩ | ⟨rfl, rfl⟩ | ⟨rfl, rfl⟩ | ⟨rfl, rfl⟩ | ⟨rfl, rfl⟩ | ⟨rfl, rfl⟩ | ⟨rfl, rfl⟩ | ⟨rfl, rfl⟩ |
    ⟨rfl, rfl⟩ := known <;> rfl

theorem hexValue?_digits {digits : List Char} (hexadecimal : ∀ d ∈ digits, (Text.hexDigit? d).isSome = true) :
    Lexer.hexValue? digits.length (digits ++ rest) = some (hexNumber digits, rest) := by
  have values : digits.mapM Text.hexDigit? = some (digits.map fun d => (Text.hexDigit? d).getD 0) := by
    induction digits with
    | nil => rfl
    | cons d digits ih =>
      rw [List.forall_mem_cons] at hexadecimal
      obtain ⟨n, is⟩ := Option.isSome_iff_exists.mp hexadecimal.1
      rw [List.mapM_cons, ih hexadecimal.2, is, List.map_cons, is]
      rfl
  rw [Lexer.hexValue?, List.take_left, values, List.drop_left, Option.bind_eq_bind, Option.bind_some, List.length_map,
    if_pos rfl, List.foldl_map]
  rfl

theorem charOf?_of_isValidChar {n : Nat} (scalar : n.isValidChar) : Lexer.charOf? n = some (Char.ofNat n) := by
  have small : ¬ 0x110000 ≤ n ∧ ¬ (0xd800 ≤ n ∧ n < 0xe000) := by
    unfold Nat.isValidChar at scalar
    omega
  rw [Lexer.charOf?, if_neg small.1, if_neg small.2]

theorem unescapeWithin_chars (named : String → Option Char) (glyph : Glyph) (fuel : Nat) :
    Lexer.unescapeWithin named (fuel + 1) (glyph.chars ++ rest) =
      (Lexer.unescapeWithin named fuel rest).map (glyph.value :: ·) := by
  have escaped (written : List Char)
      (reads : Lexer.escape? named (written ++ rest) = some ([glyph.value], rest)) :
      Lexer.unescapeWithin named (fuel + 1) ('\\' :: (written ++ rest)) =
        (Lexer.unescapeWithin named fuel rest).map (glyph.value :: ·) := by
    rw [Lexer.unescapeWithin, reads, Option.bind_eq_bind, Option.bind_some]
    exact (Option.map_eq_bind ..).symm
  cases glyph with
  | plain c inLine =>
    rw [Glyph.chars, List.singleton_append, Lexer.unescapeWithin]
    · rfl
    · rintro rfl
      exact absurd rfl inLine.1
  | letter c value known => exact escaped [c] (escape?_letter named known)
  | code wide digits count hexadecimal scalar =>
    refine escaped ((if wide then 'u' else 'x') :: digits) ?_
    have coded (n : Nat) (is : digits.length = n) :
        ((Lexer.hexValue? n (digits ++ rest)).bind fun parts => (Lexer.charOf? parts.1).bind fun value =>
          some ([value], parts.2)) = some ([Char.ofNat (hexNumber digits)], rest) := by
      rw [← is, hexValue?_digits hexadecimal, Option.bind_some, charOf?_of_isValidChar scalar, Option.bind_some]
    cases wide with
    | true => exact coded 4 count
    | false => exact coded 2 count

end Glyph

namespace Literal

variable (l : Literal) {rest : List Char}

theorem quote_ne : l.quote ≠ '\\' := by
  obtain is | is := l.isQuote <;> rw [is] <;> decide

theorem inside_body : Inside l.quote l.body := by
  have all (glyphs : List Glyph) (part : ∀ g ∈ glyphs, g ∈ l.glyphs) :
      Inside l.quote (glyphs.flatMap Glyph.chars) := by
    induction glyphs with
    | nil => exact .nil
    | cons g glyphs ih =>
      rw [List.forall_mem_cons] at part
      rw [List.flatMap_cons]
      exact (g.inside l.isQuote fun c inLine is => l.inside c inLine (is ▸ part.1)).append (ih part.2)
  exact all l.glyphs fun _ mem => mem

theorem on_line : ∀ c ∈ l.chars, c ≠ '\n' ∧ c ≠ '\r' ∧ c ≠ Char.ofNat 0 := by
  have quote : l.quote ≠ '\n' ∧ l.quote ≠ '\r' ∧ l.quote ≠ Char.ofNat 0 := by
    obtain is | is := l.isQuote <;> rw [is] <;> decide
  intro c mem
  rw [chars, List.mem_cons, List.mem_append, body, List.mem_flatMap, List.mem_singleton] at mem
  obtain rfl | ⟨g, -, mem⟩ | rfl := mem
  · exact quote
  · exact g.on_line c mem
  · exact quote

/-- The rewriting of operators finds the literal as a whole. -/
theorem literal?_chars : Spelling.literal? (l.chars ++ rest) = some (l.chars, rest) := by
  rw [chars, List.cons_append, List.append_assoc, Spelling.literal?, if_pos l.isQuote, List.singleton_append,
    l.inside_body.literalRest? l.quote_ne]
  rfl

theorem unescape?_body (named : String → Option Char) : Lexer.unescape? named l.body = some l.value := by
  have all (glyphs : List Glyph) (fuel : Nat) (enough : (glyphs.flatMap Glyph.chars).length ≤ fuel) :
      Lexer.unescapeWithin named fuel (glyphs.flatMap Glyph.chars) = some (glyphs.map Glyph.value) := by
    induction glyphs generalizing fuel with
    | nil => cases fuel <;> rfl
    | cons g glyphs ih =>
      have some_ : 0 < g.chars.length := by cases g <;> exact Nat.succ_pos _
      rw [List.flatMap_cons, List.length_append] at enough
      obtain ⟨fuel, rfl⟩ := Nat.exists_eq_add_of_le' (show 1 ≤ fuel by omega)
      rw [List.flatMap_cons, g.unescapeWithin_chars, ih fuel (by omega)]
      rfl
  exact all l.glyphs _ (Nat.le_refl _)

/-- The lexer reads it as the text that is meant, unless a quote follows at once. -/
theorem stringToken?_chars (named : String → Option Char) (stops : rest.head? ≠ some l.quote) :
    Lexer.stringToken? named [] (l.chars ++ rest) = some (.text l.value, rest) := by
  have single : Lexer.stringBody? (l.chars ++ rest) = some (l.body, rest) := by
    have body : Lexer.singleBody? l.quote (l.body ++ l.quote :: rest) = some (l.body, rest) :=
      l.inside_body.singleBody? l.quote_ne fun mem => (l.on_line '\n' (by simp [chars, mem])).1 rfl
    -- an empty text with a quote behind it would open a string of three quotes
    have triple : ¬ [l.quote, l.quote].isPrefixOf (l.body ++ l.quote :: rest) = true := by
      intro ahead
      have first := l.inside_body.head?_ne l.quote_ne
      rcases empty : l.body with - | ⟨c, others⟩
      · rw [empty, List.nil_append, List.isPrefixOf_cons_cons] at ahead
        cases rest with
        | nil => simp at ahead
        | cons c rest => exact stops (by simp_all)
      · rw [empty] at ahead first
        exact first (by simp_all)
    rw [chars, List.cons_append, List.append_assoc, Lexer.stringBody?, List.singleton_append, if_neg triple, body]
  rw [Lexer.stringToken?, single]
  simp [l.unescape?_body]

end Literal

end TriggerFlow.Expr
