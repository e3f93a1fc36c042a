import TriggerFlow.Proofs.Expr.Literal
import TriggerFlow.Proofs.Expr.Spelling

/-!
# Lexemes

The pieces that an expression is written with in the first family of spellings, and the tokens that are read in their
place. Blanks may stand between them, and need not, as long as no two pieces that run into one another are neighbours.
-/

namespace TriggerFlow.Expr

/-! ### What is written -/

/-- A name in ASCII that is no keyword. -/
structure Identifier where
  first : Char
  others : List Char
  begins : first.isAlpha = true ∨ first = '_'
  goesOn : ∀ c ∈ others, c.isAlphanum = true ∨ c = '_'
  free : String.ofList (first :: others) ∉ Lexer.keywords

def Identifier.chars (id : Identifier) : List Char := id.first :: id.others

def Identifier.name (id : Identifier) : String := String.ofList id.chars

/-- The comparisons that have a spelling in both families. -/
inductive Comparison where
  | same | notSame | lt | le | gt | ge
  deriving DecidableEq, Repr

def Comparison.op : Comparison → CompareOp
  | .same => .eq | .notSame => .ne | .lt => .lt | .le => .le | .gt => .gt | .ge => .ge

def Comparison.chars : Comparison → List Char
  | .same => "===".toList | .notSame => "!==".toList | .lt => "<".toList | .le => "<=".toList
  | .gt => ">".toList | .ge => ">=".toList

/-- The symbol of the comparison after the rewriting. -/
def Comparison.symbol : Comparison → String
  | .same => "==" | .notSame => "!=" | .lt => "<" | .le => "<=" | .gt => ">" | .ge => ">="

/-- A piece of an expression. -/
inductive Lexeme where
  | name (id : Identifier)
  | number (n : Numeral)
  | text (l : Literal)
  | dot | opening | closing
  | not | both | either
  | compare (c : Comparison)

namespace Lexeme

/-- A piece as it is written. -/
def chars : Lexeme → List Char
  | .name id => id.chars
  | .number n => n.chars
  | .text l => l.chars
  | .dot => ['.'] | .opening => ['('] | .closing => [')']
  | .not => ['!'] | .both => ['&', '&'] | .either => ['|', '|']
  | .compare c => c.chars

/-- What stands in its place after the rewriting, without the blanks around a word. -/
def word : Lexeme → List Char
  | .not => "not".toList | .both => "and".toList | .either => "or".toList
  | .compare c => c.symbol.toList
  | other => other.chars

/-- Whether blanks are put around it. -/
def isPadded : Lexeme → Bool
  | .not | .both | .either => true
  | _ => false

def padded (l : Lexeme) : List Char := if l.isPadded then ' ' :: (l.word ++ [' ']) else l.word

def token : Lexeme → Token
  | .name id => .name id.name
  | .number n => .number n.value
  | .text l => .text l.value
  | .dot => .symbol "." | .opening => .symbol "(" | .closing => .symbol ")"
  | .not => .keyword "not" | .both => .keyword "and" | .either => .keyword "or"
  | .compare c => .symbol c.symbol

/-- Whether a character would be taken for a part of the piece before it. -/
def goesOn : Lexeme → Char → Bool
  | .name _, c | .not, c | .both, c | .either, c => Lexer.isNameChar c || c = '"' || c = '\''
  | .number _, c => Lexer.isNameChar c || c = '.'
  | .text l, c => c = l.quote
  | .dot, c => c.isDigit || c = '.'
  | .compare .lt, c => c = '=' || c = '<' || c = '>'
  | .compare .gt, c => c = '=' || c = '>'
  | _, _ => false

/-- What follows is no part of the piece. -/
def Stops (l : Lexeme) (rest : List Char) : Prop := ∀ c ∈ rest.head?, l.goesOn c = false

end Lexeme

/-! ### What is read in front -/

namespace Lexer

variable {rest : List Char}

theorem Apart.takeWhile (apart : Apart rest) : rest.takeWhile isNameChar = [] := by
  cases rest with
  | nil => rfl
  | cons c rest => rw [List.takeWhile_cons_of_neg (by simp [apart c rfl])]

theorem Apart.dropWhile (apart : Apart rest) : rest.dropWhile isNameChar = rest := by
  cases rest with
  | nil => rfl
  | cons c rest => rw [List.dropWhile_cons_of_neg (by simp [apart c rfl])]

/-- The word in front is a keyword, or a name. -/
theorem token?_word (named : String → Option Char) {c : Char} {run : List Char}
    (begins : c.isAlpha = true ∨ c = '_') (goes : ∀ d ∈ run, d.isAlphanum = true ∨ d = '_')
    (apart : Apart rest) (unquoted : ∀ d ∈ rest.head?, d ≠ '"' ∧ d ≠ '\'') :
    token? named (c :: run ++ rest) =
      some (if keywords.contains (String.ofList (c :: run)) then .keyword (String.ofList (c :: run))
        else .name (String.ofList (c :: run)), rest) := by
  have letters : ∀ d ∈ c :: run, d.isAlphanum = true ∨ d = '_' :=
    List.forall_mem_cons.mpr ⟨begins.imp_left fun alpha => by rw [Char.isAlphanum, alpha, Bool.true_or], goes⟩
  have inside : ∀ d ∈ c :: run, isNameChar d = true := by
    intro d mem
    obtain letter | rfl := letters d mem
    · exact isNameChar_of_isAlphanum letter
    · decide
  have ascii : (c :: run).all (fun d => decide (d.toNat < 0x80)) = true := by
    rw [List.all_eq_true]
    intro d mem
    have plain : Plain d := (letters d mem).imp_right .inl
    exact decide_eq_true plain.graphic.2
  have other : (c.isDigit || (decide (c = '.') && (run ++ rest).head?.any Char.isDigit)) = false := by
    have noDigit : c.isDigit = false := by
      obtain letter | rfl := begins
      · exact not_isDigit_of_isAlpha letter
      · decide
    have noPoint : c ≠ '.' := by
      rintro rfl
      simp at begins
    simp [noDigit, noPoint]
  -- with a quote behind it the word would be the mark of a string
  have unmarked : (rest.head?.any fun d => decide (d = '"') || decide (d = '\'')) = false := by
    cases rest with
    | nil => rfl
    | cons d rest => simp [unquoted d rfl]
  have taken : (c :: run ++ rest).takeWhile isNameChar = c :: run := by
    rw [List.takeWhile_append_of_pos inside, apart.takeWhile, List.append_nil]
  have dropped : (c :: run ++ rest).dropWhile isNameChar = rest := by
    rw [List.dropWhile_append_of_pos inside, apart.dropWhile]
  rw [List.cons_append] at taken dropped ⊢
  rw [token?, if_neg (by rw [other]; exact Bool.false_ne_true), if_pos (inside c List.mem_cons_self), word?, taken,
    dropped]
  simp only [unmarked, Bool.false_and, Bool.false_eq_true, if_false, ascii, if_true]
  split <;> rfl

theorem begins_of_numeral (n : Numeral) (rest : List Char) : ∃ c more, n.chars ++ rest = c :: more ∧
    (c.isDigit || (decide (c = '.') && more.head?.any Char.isDigit)) = true := by
  cases n with
  | inBase base upper digits => exact ⟨_, _, rfl, rfl⟩
  | decimal d =>
    rw [Numeral.chars, DecimalForm.spelling]
    rcases whole : d.whole with - | digits
    · obtain ⟨digits, point⟩ := d.some_.resolve_left fun some => some whole
      obtain ⟨c, others, is, digit, -⟩ := digits.grouped.eq_cons
      refine ⟨'.', _, by rw [point]; rfl, ?_⟩
      simp [Part.spelling, is, digit]
    · obtain ⟨c, others, is, digit, -⟩ := digits.grouped.eq_cons
      refine ⟨c, _, by rw [Part.spelling, Option.map_some, Option.getD_some, is]; rfl, ?_⟩
      rw [digit, Bool.true_or]

theorem token?_number (named : String → Option Char) (n : Numeral) (apart : Apart rest) (point : rest.head? ≠ some '.') :
    token? named (n.chars ++ rest) = some (.number n.value, rest) := by
  have read := number?_numeral n apart point
  obtain ⟨c, more, is, begins⟩ := begins_of_numeral n rest
  rw [is] at read ⊢
  rw [token?, if_pos begins, read]
  rfl

theorem token?_text (named : String → Option Char) (l : Literal) (stops : rest.head? ≠ some l.quote) :
    token? named (l.chars ++ rest) = some (.text l.value, rest) := by
  have read := l.stringToken?_chars named stops
  rw [Literal.chars, List.cons_append] at read ⊢
  obtain is | is := l.isQuote <;> rw [is] at read ⊢ <;> exact read

/-- The symbol in front is the first of the list that is there. -/
theorem token?_symbol (named : String → Option Char) {c : Char} {more : List Char} {s : String}
    (other : isNameChar c = false ∧ c ≠ '"' ∧ c ≠ '\'') (point : c = '.' → ∀ d ∈ more.head?, d.isDigit = false)
    (found : symbols.find? (fun s => s.toList.isPrefixOf (c :: more)) = some s) :
    token? named (c :: more) = some (.symbol s, (c :: more).drop s.length) := by
  have noNumber : (c.isDigit || (decide (c = '.') && more.head?.any Char.isDigit)) = false := by
    have noDigit : c.isDigit = false :=
      Bool.eq_false_iff.mpr fun digit => by
        simp [isNameChar_of_isAlphanum (isAlphanum_of_isDigit digit)] at other
    by_cases is : c = '.'
    · cases more with
      | nil => simp [noDigit]
      | cons d more => simp [noDigit, point is d rfl]
    · simp [noDigit, is]
  rw [token?, if_neg (by rw [noNumber]; exact Bool.false_ne_true), if_neg (by rw [other.1]; exact Bool.false_ne_true),
    if_neg (by simp [other.2]), symbol?, found]
  rfl

end Lexer

namespace Lexeme

variable {rest : List Char}

/-- The word of an operator in front. -/
theorem token?_keyword (named : String → Option Char) {c : Char} {run : List Char}
    (known : Lexer.keywords.contains (String.ofList (c :: run)) = true) (begins : c.isAlpha = true)
    (letters : run.all Char.isAlphanum = true)
    (stops : ∀ d ∈ rest.head?, (Lexer.isNameChar d || d = '"' || d = '\'') = false) :
    Lexer.token? named (c :: run ++ rest) = some (.keyword (String.ofList (c :: run)), rest) := by
  have apart (d : Char) (front : d ∈ rest.head?) :
      Lexer.isNameChar d = false ∧ d ≠ '"' ∧ d ≠ '\'' := by simpa [and_assoc] using stops d front
  rw [Lexer.token?_word named (.inl begins) (fun d mem => .inl (List.all_eq_true.mp letters d mem))
    (fun d front => (apart d front).1) fun d front => (apart d front).2, if_pos known]

/-- A lexeme in front is read as its token, unless what follows goes on with it. -/
theorem token?_lexeme (named : String → Option Char) (l : Lexeme) (stops : l.Stops rest) :
    Lexer.token? named (l.word ++ rest) = some (l.token, rest) := by
  cases l with
  | name id =>
    have apart (d : Char) (front : d ∈ rest.head?) :
        Lexer.isNameChar d = false ∧ d ≠ '"' ∧ d ≠ '\'' := by simpa [goesOn, and_assoc] using stops d front
    have read := Lexer.token?_word named id.begins id.goesOn (fun d front => (apart d front).1)
      fun d front => (apart d front).2
    rwa [if_neg (by simpa using id.free)] at read
  | number n =>
    have apart (d : Char) (front : d ∈ rest.head?) : Lexer.isNameChar d = false ∧ d ≠ '.' := by
      simpa [goesOn] using stops d front
    exact Lexer.token?_number named n (fun d front => (apart d front).1) fun front => (apart _ front).2 rfl
  | text l => exact Lexer.token?_text named l fun front => by simpa [goesOn] using stops _ front
  | dot =>
    have apart (d : Char) (front : d ∈ rest.head?) : d.isDigit = false ∧ d ≠ '.' := by
      simpa [goesOn] using stops d front
    refine Lexer.token?_symbol named (by decide) (fun _ d front => (apart d front).1) (s := ".") ?_
    cases rest with
    | nil => rfl
    | cons d rest => simp [Lexer.symbols, List.isPrefixOf, (apart d rfl).2.symm]
  | opening => exact Lexer.token?_symbol named (by decide) nofun (s := "(") rfl
  | closing => exact Lexer.token?_symbol named (by decide) nofun (s := ")") rfl
  | not => exact token?_keyword named (by decide) (by decide) (by decide) stops
  | both => exact token?_keyword named (by decide) (by decide) (by decide) stops
  | either => exact token?_keyword named (by decide) (by decide) (by decide) stops
  | compare c =>
    cases c with
    | same => exact Lexer.token?_symbol named (by decide) nofun (s := "==") rfl
    | notSame => exact Lexer.token?_symbol named (by decide) nofun (s := "!=") rfl
    | le => exact Lexer.token?_symbol named (by decide) nofun (s := "<=") rfl
    | ge => exact Lexer.token?_symbol named (by decide) nofun (s := ">=") rfl
    | lt =>
      have apart (d : Char) (front : d ∈ rest.head?) : d ≠ '=' ∧ d ≠ '<' ∧ d ≠ '>' := by
        simpa [goesOn, and_assoc] using stops d front
      change Lexer.token? named ('<' :: rest) = _
      refine Lexer.token?_symbol named (by decide) nofun (s := "<") ?_
      cases rest with
      | nil => rfl
      | cons d rest =>
        obtain ⟨equal, less, greater⟩ := apart d rfl
        simp [Lexer.symbols, List.isPrefixOf, equal.symm, less.symm, greater.symm]
    | gt =>
      have apart (d : Char) (front : d ∈ rest.head?) : d ≠ '=' ∧ d ≠ '>' := by
        simpa [goesOn] using stops d front
      change Lexer.token? named ('>' :: rest) = _
      refine Lexer.token?_symbol named (by decide) nofun (s := ">") ?_
      cases rest with
      | nil => rfl
      | cons d rest =>
        obtain ⟨equal, greater⟩ := apart d rfl
        simp [Lexer.symbols, List.isPrefixOf, equal.symm, greater.symm]

end Lexeme

end TriggerFlow.Expr
