import TriggerFlow.Expr.Eval
import TriggerFlow.Proofs.Expr.Spelling

/-!
# How expressions fail

An expression has a value or is to blame itself that it has none: it is empty, too long, malformed, outside the language
or without a value for these data. The exception is a parser that breaks instead of refusing the text, since its failure
is passed on as it is. This holds for every parser; all that stands around it is fixed. The parser of conditions breaks
at the zero character, which no rewriting of the operators removes or brings in.
-/

namespace TriggerFlow.Text

variable {c : Char}

theorem mem_trimFront_iff (seen : isBlank c = false) (text : List Char) : c ∈ trimFront text ↔ c ∈ text := by
  induction text with
  | nil => exact Iff.rfl
  | cons d text ih =>
    by_cases blank : isBlank d = true
    · have other : c ≠ d := fun is => by simp [is, blank] at seen
      rw [trimFront, List.dropWhile_cons_of_pos blank, ← trimFront, ih, List.mem_cons, or_iff_right other]
    · rw [trimFront, List.dropWhile_cons_of_neg blank]

/-- Trimming takes away nothing but blanks. -/
theorem mem_trim_iff (seen : isBlank c = false) (text : List Char) : c ∈ trim text ↔ c ∈ text := by
  rw [trim, List.mem_reverse, mem_trimFront_iff seen, List.mem_reverse, mem_trimFront_iff seen]

end TriggerFlow.Text

namespace TriggerFlow.Expr

namespace Spelling

/-! ### What no rewriting removes or brings in -/

section Unspelled

variable {c : Char}

/-- The characters of all spellings of the operators, of the signs and of the words. -/
def spellings : List Char := "=!&| andort".toList

theorem mem_replaceFrom_iff {pattern replacement : List Char} (some_ : pattern ≠ []) (old : c ∉ pattern)
    (new : c ∉ replacement) (skip : Nat) (text : List Char) :
    c ∈ replaceFrom pattern replacement skip text ↔ c ∈ text.drop skip := by
  fun_induction replaceFrom pattern replacement skip text with
  | case1 => simp
  | case2 skip _ rest ih => exact ih
  | case3 d rest ahead ih =>
    -- after the pattern in front goes on what is left when as many characters are dropped
    obtain ⟨p, ps, rfl⟩ := List.exists_cons_of_ne_nil some_
    obtain ⟨others, is⟩ := List.isPrefixOf_iff_prefix.mp ahead
    obtain ⟨rfl, rfl⟩ : p = d ∧ ps ++ others = rest := List.cons.inj is
    rw [List.length_cons, Nat.add_sub_cancel, List.drop_left] at ih
    rw [List.mem_append, or_iff_right new, List.length_cons, Nat.add_sub_cancel, ih, List.drop_zero, ← List.cons_append,
      List.mem_append, or_iff_right old]
  | case4 d rest ahead ih => rw [List.mem_cons, ih, List.drop_zero, List.drop_zero, List.mem_cons]

theorem mem_replaceAll_iff (unspelled : c ∉ spellings) {pattern replacement : String} (some_ : pattern.toList ≠ [])
    (old : pattern.toList ⊆ spellings) (new : replacement.toList ⊆ spellings) (text : List Char) :
    c ∈ replaceAll pattern replacement text ↔ c ∈ text :=
  mem_replaceFrom_iff some_ (fun mem => unspelled (old mem)) (fun mem => unspelled (new mem)) 0 text

theorem mem_replaceNot_iff (unspelled : c ∉ spellings) (text : List Char) : c ∈ replaceNot text ↔ c ∈ text := by
  fun_induction replaceNot text with
  | case1 => exact Iff.rfl
  | case2 rest ih => rw [List.mem_cons, List.mem_cons, ih, List.mem_cons, List.mem_cons]
  | case3 rest _ ih =>
    have word : " not ".toList ⊆ spellings := by decide
    have new : c ∉ " not ".toList := fun mem => unspelled (word mem)
    have old : c ≠ '!' := fun is => unspelled (by rw [is]; decide)
    rw [List.mem_append, or_iff_right new, ih, List.mem_cons, or_iff_right old]
  | case4 d rest _ _ ih => rw [List.mem_cons, ih, List.mem_cons]

theorem mem_operators_iff (unspelled : c ∉ spellings) (text : List Char) : c ∈ operators text ↔ c ∈ text := by
  rw [operators, mem_replaceNot_iff unspelled]
  iterate 4 rw [mem_replaceAll_iff unspelled (by decide) (by decide) (by decide)]

end Unspelled

/-- The rest of a literal and what follows it are the text. -/
theorem literalRest?_append {quote : Char} {text : List Char} {parts : List Char × List Char}
    (found : literalRest? quote text = some parts) : parts.1 ++ parts.2 = text := by
  fun_induction literalRest? quote text generalizing parts with
  | case1 | case3 | case5 => cases found
  | case2 | case4 => cases found; rfl
  | case6 d rest _ _ ih | case7 c d rest _ _ ih =>
    obtain ⟨inner, within, rfl⟩ := Option.map_eq_some_iff.mp found
    simp [ih within]

theorem literal?_append {text : List Char} {parts : List Char × List Char} (found : literal? text = some parts) :
    parts.1 ++ parts.2 = text := by
  cases text with
  | nil => cases found
  | cons c rest =>
    rw [literal?] at found
    split at found
    · obtain ⟨inner, within, rfl⟩ := Option.map_eq_some_iff.mp found
      rw [List.cons_append, literalRest?_append within]
    · cases found

theorem flatMap_chars_consCode (c : Char) (segments : List Segment) :
    (consCode c segments).flatMap Segment.chars = c :: segments.flatMap Segment.chars := by
  rcases segments with - | ⟨text | text, segments⟩ <;> rfl

/-- The segments are the text, cut somewhere. -/
theorem flatMap_chars_segmentsWithin (fuel : Nat) (text : List Char) :
    (segmentsWithin fuel text).flatMap Segment.chars = text := by
  fun_induction segmentsWithin fuel text with
  | case1 text => simp [Segment.chars]
  | case2 => rfl
  | case3 fuel c rest text after found ih =>
    rw [List.flatMap_cons, ih]
    exact literal?_append found
  | case4 fuel c rest _ ih => rw [flatMap_chars_consCode, ih]

/-- A character that is no blank and in no spelling of an operator stands in the words where it stands in the signs. -/
theorem mem_inWords_iff {c : Char} (unspelled : c ∉ spellings) (seen : Text.isBlank c = false) (expression : String) :
    c ∈ inWords expression ↔ c ∈ expression.toList := by
  have each (segment : Segment) : c ∈ segment.inWords ↔ c ∈ segment.chars := by
    cases segment with
    | code text => exact mem_operators_iff unspelled text
    | literal text => exact Iff.rfl
  rw [inWords, Text.mem_trim_iff seen, List.mem_flatMap]
  simp only [each]
  rw [← List.mem_flatMap, segments, flatMap_chars_segmentsWithin]

end Spelling

/-! ### Constructs outside the language -/

/-- Whether a refusal is for a construct outside the language. -/
def Refusal.isOfConstruct : Refusal → Bool
  | .key | .comparison _ | .unary _ | .element _ => true
  | _ => false

variable {refusal : Refusal}

mutual

theorem isOfConstruct_of_refusal? : ∀ t : Term, refusal? t = some refusal → refusal.isOfConstruct
  | .constant _, refused | .name _, refused => nomatch refused
  | .starred _, refused | .foreign _, refused => by cases refused; rfl
  | .attribute value _, refused => isOfConstruct_of_refusal? value refused
  | .subscript value key, refused => by
    cases key with
    | constant => exact isOfConstruct_of_refusal? value refused
    | _ => cases refused; rfl
  | .compare left rest, refused => by
    rw [refusal?] at refused
    split at refused
    · cases refused; rfl
    · obtain first | ⟨-, others⟩ := Option.or_eq_some_iff.mp refused
      · exact isOfConstruct_of_refusal? left first
      · exact isOfConstruct_of_refusalOfCompared? rest others
  | .junction _ parts, refused | .list parts, refused | .tuple parts, refused => by
    rw [refusal?] at refused
    exact isOfConstruct_of_refusalOfAll? parts refused
  | .unary op operand, refused => by
    cases op with
    | not => exact isOfConstruct_of_refusal? operand refused
    | minus => cases operand <;> cases refused <;> rfl
    | plus | invert => cases refused; rfl

theorem isOfConstruct_of_refusalOfAll? :
    ∀ parts : List Term, refusalOfAll? parts = some refusal → refusal.isOfConstruct
  | [], refused => nomatch refused
  | part :: parts, refused => by
    obtain first | ⟨-, others⟩ := Option.or_eq_some_iff.mp refused
    · exact isOfConstruct_of_refusal? part first
    · exact isOfConstruct_of_refusalOfAll? parts others

theorem isOfConstruct_of_refusalOfCompared? :
    ∀ parts : List (CompareOp × Term), refusalOfCompared? parts = some refusal → refusal.isOfConstruct
  | [], refused => nomatch refused
  | (_, part) :: parts, refused => by
    obtain first | ⟨-, others⟩ := Option.or_eq_some_iff.mp refused
    · exact isOfConstruct_of_refusal? part first
    · exact isOfConstruct_of_refusalOfCompared? parts others

end

/-! ### Whatever the parser -/

/-- What a parser makes of a text. -/
inductive Parsed where
  | term (t : Term)
  | malformed
  /-- The parser fails, and not by refusing the text. -/
  | broken

/-- Reads an expression by a parser. There is no refusal where the parser breaks. -/
def compileBy (parser : List Char → Parsed) (expression : String) : Except (Option Refusal) Term :=
  if Text.isBlankText expression then .error (some .empty)
  else if maxLength < expression.length then .error (some (.tooLong expression.length))
  else match parser (Spelling.inWords expression) with
    | .broken => .error none
    | .malformed => .error (some (.malformed expression))
    | .term term =>
      match refusal? term with
      | some refusal => .error (some refusal)
      | none => .ok term

/-- The value of an expression that is read by a parser. -/
def evaluateBy (parser : List Char → Parsed) (expression : String) (context : Members) : Except (Option Fault) Value :=
  match compileBy parser expression with
  | .error refusal => .error (refusal.map .refused)
  | .ok term =>
    match term.eval context with
    | .ok v => .ok v
    | .error cause => .error (some (.failed expression cause))

/-- The parser of conditions. It breaks at the zero character. -/
def ownParser (source : List Char) : Parsed :=
  if source.contains (Char.ofNat 0) then .broken
  else match parse? Text.charNamed? source with
    | none => .malformed
    | some term => .term term

/-- Whether a refusal is a fault of the expression. -/
def Refusal.isExpression (refusal : Refusal) : Bool := (Fault.refused refusal).isExpression

/-- A failure for which the expression is not to blame. -/
def Escapes {fault result : Type} (isExpression : fault → Bool) : Except fault result → Prop
  | .ok _ => False
  | .error failure => isExpression failure = false

/-- An expression reaches the parser, and the parser breaks. -/
def Breaks (parser : List Char → Parsed) (text : String) : Prop :=
  Text.isBlankText text = false ∧ text.length ≤ maxLength ∧ parser (Spelling.inWords text) = .broken

theorem not_escapes {fault result : Type} {isExpression : fault → Bool} {failure : fault}
    (toBlame : isExpression failure = true) : ¬ Escapes isExpression (.error failure : Except fault result) :=
  fun escapes => by simp [Escapes, toBlame] at escapes

theorem isExpression_of_isOfConstruct (ofConstruct : refusal.isOfConstruct) : refusal.isExpression = true := by
  cases refusal with
  | zeroCharacter => cases ofConstruct
  | _ => rfl

section

variable (parser : List Char → Parsed) (text : String) (context : Members)

theorem escapes_compileBy_iff :
    Escapes (Option.any Refusal.isExpression) (compileBy parser text) ↔ Breaks parser text := by
  rw [compileBy, Breaks]
  split
  case isTrue blank => exact iff_of_false (not_escapes rfl) fun breaks => by simp [blank] at breaks
  case isFalse seen =>
    rw [eq_false_of_ne_true seen]
    split
    case isTrue long => exact iff_of_false (not_escapes rfl) fun breaks => absurd breaks.2.1 (Nat.not_le.mpr long)
    case isFalse short =>
      cases made : parser (Spelling.inWords text) with
      | broken => exact iff_of_true rfl ⟨rfl, Nat.not_lt.mp short, rfl⟩
      | malformed => exact iff_of_false (not_escapes rfl) nofun
      | term term =>
        refine iff_of_false ?_ nofun
        dsimp only
        cases refused : refusal? term with
        | none => exact id
        | some refusal =>
          have toBlame := isExpression_of_isOfConstruct (isOfConstruct_of_refusal? term refused)
          exact not_escapes toBlame

/-- An evaluation adds no failure to those of the reading. -/
theorem escapes_evaluateBy_iff :
    Escapes (Option.any Fault.isExpression) (evaluateBy parser text context) ↔ Breaks parser text := by
  rw [← escapes_compileBy_iff, evaluateBy]
  cases compileBy parser text with
  | error refusal => cases refusal <;> exact Iff.rfl
  | ok term =>
    refine iff_of_false ?_ id
    dsimp only
    cases term.eval context with
    | ok value => exact id
    | error cause => exact not_escapes rfl

theorem compile_eq_compileBy : compile text = (compileBy ownParser text).mapError (·.getD .zeroCharacter) := by
  rw [compile, compileBy, ownParser]
  split
  · rfl
  split
  · rfl
  dsimp only
  split
  · rfl
  cases parse? Text.charNamed? (Spelling.inWords text) with
  | none => rfl
  | some term =>
    dsimp only
    cases refusal? term <;> rfl

theorem evaluate_eq_evaluateBy :
    evaluate text context = (evaluateBy ownParser text context).mapError (·.getD (.refused .zeroCharacter)) := by
  rw [evaluate, compile_eq_compileBy, evaluateBy]
  cases compileBy ownParser text with
  | error refusal => cases refusal <;> rfl
  | ok term =>
    dsimp only [Except.mapError]
    cases term.eval context <;> rfl

theorem escapes_mapError {fault result : Type} {isExpression : fault → Bool} {escaped : fault}
    (other : isExpression escaped = false) (answer : Except (Option fault) result) :
    Escapes isExpression (answer.mapError (·.getD escaped)) ↔ Escapes (Option.any isExpression) answer := by
  rcases answer with (- | failure) | value
  · exact iff_of_true other rfl
  · exact Iff.rfl
  · exact Iff.rfl

theorem ownParser_eq_broken_iff (source : List Char) : ownParser source = .broken ↔ Char.ofNat 0 ∈ source := by
  rw [ownParser]
  split
  case isTrue contained => exact iff_of_true rfl (List.contains_iff_mem.mp contained)
  case isFalse missing =>
    refine iff_of_false ?_ fun mem => missing (List.contains_iff_mem.mpr mem)
    cases parse? Text.charNamed? source <;> nofun

/-- The parser of conditions breaks at the texts with the zero character. -/
theorem breaks_ownParser_iff : Breaks ownParser text ↔ text.length ≤ maxLength ∧ Char.ofNat 0 ∈ text.toList := by
  rw [Breaks, ownParser_eq_broken_iff, Spelling.mem_inWords_iff (by decide) (by decide), and_iff_right_of_imp]
  rintro ⟨-, mem⟩
  rw [Text.isBlankText, List.all_eq_false]
  exact ⟨_, mem, by decide⟩

end

/-- Whatever the parser is, an expression has a value or is to blame itself that it has none, except where the parser
breaks; so it is when the expression is only read. The parser of conditions breaks at the texts with the zero character
that are not too long. -/
theorem fails_as_expression (text : String) (context : Members) :
    (∀ parser, (Escapes (Option.any Fault.isExpression) (evaluateBy parser text context) ↔ Breaks parser text) ∧
      (Escapes (Option.any Refusal.isExpression) (compileBy parser text) ↔ Breaks parser text)) ∧
      evaluate text context = (evaluateBy ownParser text context).mapError (·.getD (.refused .zeroCharacter)) ∧
      compile text = (compileBy ownParser text).mapError (·.getD .zeroCharacter) ∧
      (Escapes Fault.isExpression (evaluate text context) ↔ text.length ≤ maxLength ∧ Char.ofNat 0 ∈ text.toList) ∧
      (Escapes Refusal.isExpression (compile text) ↔ text.length ≤ maxLength ∧ Char.ofNat 0 ∈ text.toList) := by
  refine ⟨fun parser => ⟨escapes_evaluateBy_iff parser text context, escapes_compileBy_iff parser text⟩,
    evaluate_eq_evaluateBy text context, compile_eq_compileBy text, ?_, ?_⟩
  · rw [evaluate_eq_evaluateBy, escapes_mapError rfl, escapes_evaluateBy_iff, breaks_ownParser_iff]
  · rw [compile_eq_compileBy, escapes_mapError rfl, escapes_compileBy_iff, breaks_ownParser_iff]

example : evaluate "!a === \x00" [] = .error (.refused .zeroCharacter) := by rfl

end TriggerFlow.Expr
