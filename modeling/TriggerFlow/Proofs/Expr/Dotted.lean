import TriggerFlow.Proofs.Expr.Meaning
import TriggerFlow.Proofs.Variables.Rendering

/-!
# Paths in conditions and in templates

A condition takes a dotted path for an expression, parses it and evaluates it member by member; a template cuts it at
its points and follows the parts. Both come to the same datum, whatever lies on the way: an object is looked into by
either, a name counts no item of a list, and there is no way on from anything else.
-/

namespace TriggerFlow.Expr

theorem Identifier.name_injective {a b : Identifier} (same : a.name = b.name) : a = b := by
  obtain ⟨first, others, _, _, _⟩ := a
  obtain ⟨first', others', _, _, _⟩ := b
  have chars : first :: others = first' :: others' := String.ofList_injective same
  cases chars
  rfl

/-- Names with points between them. -/
structure Dotted where
  head : Identifier
  members : List Identifier

namespace Dotted

def names (path : Dotted) : List String := (path.head :: path.members).map Identifier.name

def text (path : Dotted) : String := ".".intercalate path.names

def lexemes (path : Dotted) : List Lexeme := .name path.head :: path.members.flatMap fun id => [.dot, .name id]

/-- A name, and members of members of it. -/
def term (path : Dotted) : Term := path.members.foldl (fun t id => .attribute t id.name) (.name path.head.name)

/-- The head may be read as a name of the context: it is there, or it is no name for a constant. -/
def Free (context : Members) (path : Dotted) : Prop :=
  Ordered.has context path.head.name = true ∨ namedConstants.lookup path.head.name = none

theorem toList_text (path : Dotted) :
    path.text.toList = path.head.chars ++ path.members.flatMap fun id => '.' :: id.chars := by
  obtain ⟨head, members⟩ := path
  induction members generalizing head with
  | nil => simp [text, names, Identifier.name]
  | cons id members ih =>
    have rest := ih id
    rw [text, names] at rest ⊢
    rw [List.map_cons, List.map_cons, String.intercalate_cons_cons, String.toList_append, String.toList_append,
      ← List.map_cons, rest]
    simp [Identifier.name]

/-! ### As an expression -/

theorem spelled (path : Dotted) : Spelled path.lexemes path.text.toList := by
  have others (members : List Identifier) :
      Spelled (members.flatMap fun id => [.dot, .name id]) (members.flatMap fun id => '.' :: id.chars) := by
    induction members with
    | nil => exact .done
    | cons id members ih => exact .next .dot (.next (.name id) ih)
  rw [toList_text]
  exact .next (.name path.head) (others path.members)

/-- A path is a leaf of a tree; the names of the literals, standing alone, are leaves of their own. -/
theorem exists_leaf (path : Dotted) : ∃ l : Leaf, l.lexemes = path.lexemes ∧ l.term = path.term := by
  obtain ⟨head, - | ⟨id, members⟩⟩ := path
  · by_cases yes : head.name = "true"
    · obtain rfl : head = .true_ := Identifier.name_injective yes
      exact ⟨.bool true, rfl, rfl⟩
    by_cases no : head.name = "false"
    · obtain rfl : head = .false_ := Identifier.name_injective no
      exact ⟨.bool false, rfl, rfl⟩
    by_cases null : head.name = "null"
    · obtain rfl : head = .null := Identifier.name_injective null
      exact ⟨.null, rfl, rfl⟩
    exact ⟨.path head [] fun _ => ⟨yes, no, null⟩, rfl, rfl⟩
  · exact ⟨.path head (id :: members) nofun, rfl, rfl⟩

theorem compile_text (path : Dotted) (short : path.text.length ≤ maxLength) : compile path.text = .ok path.term := by
  obtain ⟨l, lexemes, term⟩ := path.exists_leaf
  have spelled : Spelled (Tree.leaf l).lexemes path.text.toList := by
    rw [Tree.lexemes, lexemes]
    exact path.spelled
  rw [compile_spelled spelled short, ← term]
  rfl

/-- The member of that name, if the datum has members. -/
def memberOf (datum : Json) (name : String) : Json :=
  match datum with
  | .object members => Json.member members name
  | _ => .null

theorem get?_ofMembers (members : Members) (name : String) :
    Ordered.get? (Value.ofMembers members) name = (Ordered.get? members name).map Value.ofJson := by
  induction members with
  | nil => rw [Value.ofMembers]; rfl
  | cons member members ih =>
    obtain ⟨key, datum⟩ := member
    rw [Value.ofMembers, Ordered.get?, Ordered.get?]
    split
    · rfl
    · exact ih

theorem lookUp_ofJson (datum : Json) (name : String) :
    lookUp (.ofJson datum) (.text name) = .ofJson (memberOf datum name) := by
  cases datum with
  | object members =>
    rw [Value.ofJson, lookUp, get?_ofMembers, memberOf, Json.member]
    cases Ordered.get? members name with
    | none => exact Value.ofJson.eq_1.symm
    | some datum => rfl
  | null | bool | int | float | text | list => simp only [Value.ofJson, memberOf]; rfl

theorem foldl_lookUp (members : List Identifier) (datum : Json) :
    members.foldl (fun value id => lookUp value (.text id.name)) (.ofJson datum) =
      .ofJson ((members.map Identifier.name).foldl memberOf datum) := by
  induction members generalizing datum with
  | nil => rfl
  | cons id members ih => rw [List.foldl_cons, lookUp_ofJson, ih, List.map_cons, List.foldl_cons]

/-- A free name stands for the member of the context, or for null if there is none. -/
theorem nameValue_of_free {context : Members} {path : Dotted} (free : path.Free context) :
    nameValue context path.head.name = .ofJson (memberOf (.object context) path.head.name) := by
  rw [nameValue, memberOf, Json.member]
  cases found : Ordered.get? context path.head.name with
  | some datum => rfl
  | none =>
    have noConstant : namedConstants.lookup path.head.name = none :=
      free.resolve_left (by simp [Ordered.has, found])
    rw [noConstant]
    exact Value.ofJson.eq_1.symm

/-! ### As a path -/

theorem cut_of_not_mem {mark : Char} {text : List Char} (none : mark ∉ text) : Text.cut mark text = [text] := by
  induction text with
  | nil => rfl
  | cons c text ih =>
    obtain ⟨first, others⟩ := List.ne_and_not_mem_of_not_mem_cons none
    rw [Text.cut, if_neg first.symm, ih others]

theorem cut_append {mark : Char} {front : List Char} (rest : List Char) (none : mark ∉ front) :
    Text.cut mark (front ++ mark :: rest) = front :: Text.cut mark rest := by
  induction front with
  | nil => rw [List.nil_append, Text.cut, if_pos rfl]
  | cons c front ih =>
    obtain ⟨first, others⟩ := List.ne_and_not_mem_of_not_mem_cons none
    rw [List.cons_append, Text.cut, if_neg first.symm, ih others]

theorem letters (id : Identifier) : ∀ c ∈ id.chars, c.isAlphanum = true ∨ c = '_' := by
  refine List.forall_mem_cons.mpr ⟨id.begins.imp_left fun alpha => ?_, id.goesOn⟩
  rw [Char.isAlphanum, alpha, Bool.true_or]

theorem not_mem_point (id : Identifier) : '.' ∉ id.chars := by
  intro mem
  obtain letter | is := letters id '.' mem
  · exact absurd letter (by decide)
  · exact absurd is (by decide)

theorem trim_chars (id : Identifier) : Text.trim id.chars = id.chars := by
  have seen : ∀ c ∈ id.chars, Text.isBlank c = false :=
    fun c mem => not_isBlank_of_graphic (Lexeme.plain_of_identifier id c mem).graphic
  have stays (text : List Char) (seen : ∀ c ∈ text, Text.isBlank c = false) : Text.trimFront text = text := by
    cases text with
    | nil => rfl
    | cons c text => exact List.dropWhile_cons_of_neg (by simp [seen c List.mem_cons_self])
  rw [Text.trim, stays _ seen, stays _ fun c mem => seen c (List.mem_reverse.mp mem), List.reverse_reverse]

/-- A path is cut into its names. -/
theorem parts_text (path : Dotted) : Path.parts path.text = path.names := by
  have cut : Text.cut '.' path.text.toList = (path.head :: path.members).map Identifier.chars := by
    rw [toList_text]
    obtain ⟨head, members⟩ := path
    induction members generalizing head with
    | nil => simpa using cut_of_not_mem (not_mem_point head)
    | cons id members ih =>
      rw [List.flatMap_cons, List.cons_append, cut_append _ (not_mem_point head), ih id]
      rfl
  rw [Path.parts, cut, List.map_map, names]
  exact List.map_congr_left fun id _ => congrArg String.ofList (trim_chars id)

/-- A name is no index, so in a list there is nothing at it. -/
theorem step_name (datum : Json) (id : Identifier) : Path.step datum id.name = .ok (memberOf datum id.name) := by
  cases datum with
  | list items =>
    have noSign : id.first ≠ '-' := by
      intro is
      have begins := id.begins
      rw [is] at begins
      exact absurd begins (by decide)
    have noDigit : Text.isAnyDigit id.first = false := by
      have ascii := (Lexeme.plain_of_identifier id id.first List.mem_cons_self).graphic.2
      rw [Text.isAnyDigit, if_pos ascii]
      obtain alpha | is := id.begins
      · exact Lexer.not_isDigit_of_isAlpha alpha
      · rw [is]
        decide
    have named : Path.looksLikeIndex id.name = false := by
      rw [Path.looksLikeIndex, Identifier.name, String.toList_ofList, Identifier.chars,
        List.dropWhile_cons_of_neg (by simpa using noSign)]
      simp [noDigit]
    rw [Path.step, named, if_neg Bool.false_ne_true]
    rfl
  | object | null | bool | int | float | text => rfl

theorem follow_names (members : List Identifier) (datum : Json) :
    Path.follow datum (members.map Identifier.name) = .ok ((members.map Identifier.name).foldl memberOf datum) := by
  induction members generalizing datum with
  | nil => rfl
  | cons id members ih =>
    rw [List.map_cons, Path.follow_cons, step_name]
    exact ih (memberOf datum id.name)

/-- For a dotted path whose head is in the context, or is no name for a constant, a template finds a datum, and a
condition has it for its value. -/
theorem reads_like_template (context : Members) (path : Dotted) (short : path.text.length ≤ maxLength)
    (free : path.Free context) :
    ∃ datum, Path.resolve context path.text = .ok datum ∧ evaluate path.text context = .ok (.ofJson datum) := by
  have resolved : Path.resolve context path.text = .ok (path.names.foldl memberOf (.object context)) := by
    rw [Path.resolve, parts_text]
    exact follow_names (path.head :: path.members) (.object context)
  have value := eval_members context path.members (.name path.head.name) _ (Term.eval.eq_2 ..)
  rw [nameValue_of_free free, foldl_lookUp] at value
  refine ⟨_, resolved, ?_⟩
  rw [evaluate, compile_text path short]
  dsimp only
  rw [Dotted.term, value]
  rfl

end Dotted

end TriggerFlow.Expr

namespace TriggerFlow.Trial

open TriggerFlow.Expr

/-- A field that is named like a constant, and holds a list. -/
def disguised : Members := [("true", .object [("late", .list [.int 8, .null])])]

def trueLate : Dotted := ⟨.true_, [late]⟩

/-- A way through a list, on which there is nothing. -/
def trueLateDays : Dotted := ⟨.true_, [late, days]⟩

theorem disguised_read :
    Path.resolve disguised "true.late" = .ok (.list [.int 8, .null]) ∧
      evaluate "true.late" disguised = .ok (.list [.int 8, .null]) ∧
      Path.resolve disguised "true.late.days" = .ok .null ∧ evaluate "true.late.days" disguised = .ok .null := by
  have there (path : Dotted) (is : path.head = .true_) : path.Free disguised := .inl (by rw [is]; rfl)
  obtain ⟨datum, resolved, value⟩ := Dotted.reads_like_template disguised trueLate (by decide) (there _ rfl)
  obtain ⟨other, none, nothing⟩ := Dotted.reads_like_template disguised trueLateDays (by decide) (there _ rfl)
  have found : Path.resolve disguised "true.late" = .ok (.list [.int 8, .null]) := by decide +kernel
  have missing : Path.resolve disguised "true.late.days" = .ok .null := by decide +kernel
  obtain rfl := Except.ok.inj (resolved.symm.trans found)
  obtain rfl := Except.ok.inj (none.symm.trans missing)
  refine ⟨found, value.trans ?_, missing, nothing.trans ?_⟩
  · simp only [Value.ofJson, Value.ofItems]
  · rw [Value.ofJson]

end TriggerFlow.Trial
