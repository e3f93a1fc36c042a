import TriggerFlow.Variables.Context
import TriggerFlow.Variables.Path
import Mathlib.Data.List.TakeWhile

/-!
# Filling in placeholders

A rendered datum has the shape of the datum that was rendered: only texts change, and in them only placeholders, each of
which gives way to what its path leads to, or to nothing. Rendering fails just where a placeholder cannot be filled in.
A template that is written from literal chunks and placeholders is read back as these, so it comes out as the chunks
with the data between them, and what has been put in is not looked at again.
-/

/-!
## Where a path leads

A step goes from an object to a member of it, or from a list to an item of it. A path leads to what its steps come to,
and the lookup finds just that, or null if the steps end before the path does. The one thing in its way is a list at a
part that is made of digits and still counts no item: two minus signs before the digits, a digit without a place value,
or more digits than are read.
-/

namespace TriggerFlow.Path

/-- Digits that a number is read from: they have a place value, in any script, and there are not too many of them. -/
structure Countable (digits : List Char) : Prop where
  some : digits ≠ []
  decimal : ∀ c ∈ digits, (Text.decimalDigit? c).isSome = true
  short : digits.length ≤ Json.maxDigits

/-- A part in the decimal form of an index, with one minus sign or none. -/
def Indexes (part : String) (index : Int) : Prop :=
  ∃ digits, Countable digits ∧
    (part.toList = digits ∧ index = digitsValue digits ∨ part.toList = '-' :: digits ∧ index = -digitsValue digits)

/-- A part that is taken for an index and is none. -/
def Misleads (part : String) : Prop := looksLikeIndex part = true ∧ ∀ index, ¬ Indexes part index

/-- One step of a path. Negative indexes count from the end. -/
inductive Steps : Json → String → Json → Prop
  | member {members : Members} {part : String} {next : Json} (found : members.get? part = some next) :
      Steps (.object members) part next
  | item {items : List Json} {part : String} {index : Int} {place : Nat} {next : Json} (counts : Indexes part index)
      (there : index = place ∨ index = place - items.length) (found : items[place]? = some next) :
      Steps (.list items) part next

/-- Where the parts of a path lead from a datum. -/
def Leads : Json → List String → Json → Prop
  | datum, [], last => last = datum
  | datum, part :: parts, last => ∃ next, Steps datum part next ∧ Leads next parts last

/-- On the way there is a list, and the part that follows misleads. -/
def Blocked : Json → List String → Prop
  | _, [] => False
  | datum, part :: parts =>
    ((∃ items, datum = .list items) ∧ Misleads part) ∨ ∃ next, Steps datum part next ∧ Blocked next parts

/-- What the parts of a path lead to, or null if they lead nowhere. -/
def Found (datum : Json) (parts : List String) (last : Json) : Prop :=
  Leads datum parts last ∨ last = .null ∧ ∀ other, ¬ Leads datum parts other

/-- A computation that succeeds just under a condition, and then with a result of some kind. -/
def Answers {α : Type} (outcome : Except Fault α) (condition : Prop) (kind : α → Prop) : Prop :=
  (condition ∧ ∃ a, outcome = .ok a ∧ kind a) ∨ (¬ condition ∧ ∃ fault, outcome = .error fault)

namespace Answers

variable {α β γ : Type} {outcome : Except Fault α} {p q : Prop} {kind : α → Prop}

theorem congr (answers : Answers outcome p kind) (iff : p ↔ q) : Answers outcome q kind := by
  rwa [Answers, ← iff]

theorem map {f : α → β} {image : β → Prop} (answers : Answers outcome p kind) (maps : ∀ a, kind a → image (f a)) :
    Answers (outcome.map f) p image := by
  rcases answers with ⟨holds, a, rfl, is⟩ | ⟨fails, fault, rfl⟩
  · exact .inl ⟨holds, f a, rfl, maps a is⟩
  · exact .inr ⟨fails, fault, rfl⟩

/-- Two computations, one after the other, succeed where both do. -/
theorem both {other : Except Fault β} {sort : β → Prop} {f : α → β → γ} {image : γ → Prop}
    (first : Answers outcome p kind) (second : Answers other q sort)
    (joins : ∀ a b, kind a → sort b → image (f a b)) :
    Answers (outcome >>= fun a => other >>= fun b => .ok (f a b)) (p ∧ q) image := by
  rcases first with ⟨holds, a, rfl, is⟩ | ⟨fails, fault, rfl⟩
  · rcases second with ⟨also, b, rfl, good⟩ | ⟨not_, fault, rfl⟩
    · exact .inl ⟨⟨holds, also⟩, f a b, rfl, joins a b is good⟩
    · exact .inr ⟨fun pair => not_ pair.2, fault, rfl⟩
  · exact .inr ⟨fun pair => fails pair.1, fault, rfl⟩

theorem error_iff (answers : Answers outcome p kind) : (∃ fault, outcome = .error fault) ↔ ¬ p := by
  rcases answers with ⟨holds, a, rfl, -⟩ | ⟨fails, fault, rfl⟩
  · exact iff_of_false nofun (not_not_intro holds)
  · exact iff_of_true ⟨fault, rfl⟩ fails

theorem kind_of_ok (answers : Answers outcome p kind) {a : α} (ok : outcome = .ok a) : kind a := by
  rcases answers with ⟨-, b, found, is⟩ | ⟨-, fault, refused⟩
  · exact Except.ok.inj (found.symm.trans ok) ▸ is
  · cases refused.symm.trans ok

end Answers

/-! ### Indexes -/

theorem isAnyDigit_of_decimal {c : Char} (decimal : (Text.decimalDigit? c).isSome = true) : Text.isAnyDigit c = true := by
  by_cases ascii : c.toNat < 0x80
  · rw [Text.decimalDigit?, if_pos ascii] at decimal
    rw [Text.isAnyDigit, if_pos ascii]
    by_contra other
    simp [other] at decimal
  · rw [Text.isAnyDigit, if_neg ascii, decimal, Bool.true_or]

theorem ne_sign_of_decimal {c : Char} (decimal : (Text.decimalDigit? c).isSome = true) : c ≠ '-' := by
  rintro rfl
  revert decimal
  decide

theorem looksLikeIndex_of_indexes {part : String} {index : Int} (counts : Indexes part index) :
    looksLikeIndex part = true := by
  obtain ⟨digits, countable, form⟩ := counts
  obtain ⟨c, rest, rfl⟩ := List.exists_cons_of_ne_nil countable.some
  have unsigned : c ≠ '-' := ne_sign_of_decimal (countable.decimal c (List.mem_cons_self ..))
  have dropped : part.toList.dropWhile (· = '-') = c :: rest := by
    rcases form with ⟨plain, -⟩ | ⟨signed, -⟩
    · simp [plain, unsigned]
    · simp [signed, unsigned]
  simp only [looksLikeIndex, dropped, List.isEmpty_cons, Bool.not_false, Bool.true_and, List.all_eq_true]
  exact fun d mem => isAnyDigit_of_decimal (countable.decimal d mem)

theorem Indexes.unique {part : String} {a b : Int} (first : Indexes part a) (second : Indexes part b) : a = b := by
  obtain ⟨digits, countable, form⟩ := first
  obtain ⟨others, uncounted, form'⟩ := second
  have unsigned {digits others : List Char} (countable : Countable digits) (same : digits = '-' :: others) : False :=
    ne_sign_of_decimal (countable.decimal '-' (by rw [same]; exact List.mem_cons_self ..)) rfl
  rcases form with ⟨chars, rfl⟩ | ⟨chars, rfl⟩ <;> rcases form' with ⟨chars', rfl⟩ | ⟨chars', rfl⟩
  · rw [← chars, ← chars']
  · exact (unsigned countable (chars.symm.trans chars')).elim
  · exact (unsigned uncounted (chars'.symm.trans chars)).elim
  · rw [(List.cons.inj (chars.symm.trans chars')).2]

/-- The digits after a sign are read just if a number can be read from them. -/
theorem index?_answers {part : String} {negative : Bool} {digits : List Char}
    (signed : Decimal.signed part.toList = (negative, digits)) :
    Answers (index? part) (Countable digits)
      (· = if negative then -(digitsValue digits : Int) else digitsValue digits) := by
  have whole : (digits.takeWhile fun c => (Text.decimalDigit? c).isSome) = digits ↔
      ∀ c ∈ digits, (Text.decimalDigit? c).isSome = true := List.takeWhile_eq_self_iff
  simp only [index?, signed]
  by_cases long : Json.maxDigits < (digits.takeWhile fun c => (Text.decimalDigit? c).isSome).length
  · rw [if_pos long]
    refine .inr ⟨fun countable => ?_, _, rfl⟩
    have short := countable.short
    rw [whole.mpr countable.decimal] at long
    omega
  · rw [if_neg long]
    split
    · rename_i unfit
      refine .inr ⟨fun countable => ?_, _, rfl⟩
      rcases unfit with none | less
      · exact countable.some ((whole.mpr countable.decimal).symm.trans none)
      · exact less (whole.mpr countable.decimal)
    · rename_i fit
      obtain ⟨some, all⟩ := not_or.mp fit
      have all := not_not.mp all
      rw [all] at some long
      exact .inl ⟨⟨some, whole.mp all, by omega⟩, _, rfl, rfl⟩

/-- A part that looks like an index is read as the index that it is, and refused if it is none. -/
theorem index?_spec {part : String} (looks : looksLikeIndex part = true) :
    (∃ index, index? part = .ok index ∧ Indexes part index) ∨ (Misleads part ∧ ∃ fault, index? part = .error fault) := by
  rcases chars : part.toList with - | ⟨c, rest⟩
  · simp [looksLikeIndex, chars] at looks
  · by_cases minus : c = '-'
    · subst minus
      have signed : Decimal.signed part.toList = (true, rest) := by rw [chars]; rfl
      rcases index?_answers signed with ⟨countable, index, read, rfl⟩ | ⟨uncountable, refused⟩
      · exact .inl ⟨_, read, rest, countable, .inr ⟨chars, rfl⟩⟩
      · refine .inr ⟨⟨looks, ?_⟩, refused⟩
        rintro index ⟨digits, countable, ⟨plain, -⟩ | ⟨same, -⟩⟩
        · have first : '-' ∈ digits := by rw [← plain, chars]; exact List.mem_cons_self ..
          exact ne_sign_of_decimal (countable.decimal _ first) rfl
        · rw [chars, List.cons_inj_right] at same
          exact uncountable (same ▸ countable)
    · have plus : c ≠ '+' := by
        rintro rfl
        simp [looksLikeIndex, chars, show Text.isAnyDigit '+' = false by decide] at looks
      have signed : Decimal.signed part.toList = (false, part.toList) := by
        rw [chars]
        simp [Decimal.signed, minus, plus]
      rcases index?_answers signed with ⟨countable, index, read, rfl⟩ | ⟨uncountable, refused⟩
      · exact .inl ⟨_, read, _, countable, .inl ⟨rfl, rfl⟩⟩
      · refine .inr ⟨⟨looks, ?_⟩, refused⟩
        rintro index ⟨digits, countable, ⟨plain, -⟩ | ⟨same, -⟩⟩
        · exact uncountable (plain ▸ countable)
        · rw [chars] at same
          exact minus (List.cons.inj same).1

/-! ### Steps -/

theorem itemAt_of_found {items : List Json} {index : Int} {place : Nat} {next : Json}
    (there : index = place ∨ index = place - items.length) (found : items[place]? = some next) :
    itemAt items index = next := by
  obtain ⟨inside, -⟩ := List.getElem?_eq_some_iff.mp found
  have counted : (if index < 0 then index + items.length else index) = place := by
    split <;> omega
  rw [itemAt, counted, if_neg (by omega), Int.toNat_natCast, found, Option.getD_some]

theorem itemAt_cases (items : List Json) (index : Int) :
    (∃ place : Nat, (index = place ∨ index = place - items.length) ∧ items[place]? = some (itemAt items index)) ∨
      itemAt items index = .null := by
  simp only [itemAt]
  by_cases before : (if index < 0 then index + items.length else index) < 0
  · exact .inr (if_pos before)
  · rw [if_neg before]
    obtain ⟨place, counted⟩ := Int.eq_ofNat_of_zero_le (Int.not_lt.mp before)
    rw [counted, Int.toNat_natCast]
    cases found : items[place]? with
    | none => exact .inr rfl
    | some next =>
      refine .inl ⟨place, ?_, found⟩
      split at counted <;> omega

theorem step_of_steps {datum next : Json} {part : String} (steps : Steps datum part next) :
    step datum part = .ok next := by
  cases steps with
  | member found => rw [step, Json.member, found, Option.getD_some]
  | @item items part index place next counts there found =>
    have looks := looksLikeIndex_of_indexes counts
    rw [step, if_pos looks]
    rcases index?_spec looks with ⟨read, is, reads⟩ | ⟨misleads, -⟩
    · obtain rfl := reads.unique counts
      rw [is, ← itemAt_of_found there found]
      rfl
    · exact absurd counts (misleads.2 index)

theorem step_of_misleads {part : String} (items : List Json) (misleads : Misleads part) :
    ∃ fault, step (.list items) part = .error fault := by
  rcases index?_spec misleads.1 with ⟨index, -, counts⟩ | ⟨-, fault, refused⟩
  · exact absurd counts (misleads.2 index)
  · exact ⟨fault, by rw [step, if_pos misleads.1, refused]; rfl⟩

/-- A step leads on, or is refused at a list, or comes to nothing. -/
theorem step_cases (datum : Json) (part : String) :
    (∃ next, Steps datum part next) ∨ ((∃ items, datum = .list items) ∧ Misleads part) ∨ step datum part = .ok .null := by
  cases datum with
  | object members =>
    cases found : Ordered.get? members part with
    | some next => exact .inl ⟨next, .member found⟩
    | none => exact .inr (.inr (by rw [step, Json.member, found, Option.getD_none]))
  | list items =>
    by_cases looks : looksLikeIndex part = true
    · rcases index?_spec looks with ⟨index, read, counts⟩ | ⟨misleads, -⟩
      · rcases itemAt_cases items index with ⟨place, there, found⟩ | nothing
        · exact .inl ⟨_, .item counts there found⟩
        · exact .inr (.inr (by rw [step, if_pos looks, read, ← nothing]; rfl))
      · exact .inr (.inl ⟨⟨items, rfl⟩, misleads⟩)
    · exact .inr (.inr (by rw [step, if_neg looks]))
  | _ => exact .inr (.inr rfl)

/-! ### Paths -/

theorem follow_null (parts : List String) : follow .null parts = .ok .null := by cases parts <;> rfl

theorem follow_cons (datum : Json) (part : String) (parts : List String) :
    follow datum (part :: parts) = step datum part >>= fun next => follow next parts := by
  rw [follow]
  split
  · rename_i refused
    rw [refused]
    rfl
  · rename_i nothing
    rw [nothing]
    exact (follow_null parts).symm
  · rename_i next _ found
    rw [found]
    rfl

theorem leads_cons {datum next last : Json} {part : String} {parts : List String} (steps : Steps datum part next) :
    Leads datum (part :: parts) last ↔ Leads next parts last := by
  refine ⟨fun ⟨other, first, on⟩ => ?_, fun on => ⟨next, steps, on⟩⟩
  rwa [Except.ok.inj ((step_of_steps steps).symm.trans (step_of_steps first))]

theorem blocked_cons {datum next : Json} {part : String} {parts : List String} (steps : Steps datum part next) :
    Blocked datum (part :: parts) ↔ Blocked next parts := by
  refine ⟨?_, fun later => .inr ⟨next, steps, later⟩⟩
  rintro (⟨⟨items, rfl⟩, misleads⟩ | ⟨other, first, later⟩)
  · obtain ⟨fault, refused⟩ := step_of_misleads items misleads
    cases refused.symm.trans (step_of_steps steps)
  · rwa [Except.ok.inj ((step_of_steps steps).symm.trans (step_of_steps first))]

/-- The lookup is stopped just where the path is blocked, and else comes to what the path leads to. -/
theorem follow_answers (datum : Json) (parts : List String) :
    Answers (follow datum parts) (¬ Blocked datum parts) (Found datum parts) := by
  induction parts generalizing datum with
  | nil => exact .inl ⟨id, datum, rfl, .inl rfl⟩
  | cons part parts ih =>
    by_cases on : ∃ next, Steps datum part next
    · obtain ⟨next, steps⟩ := on
      have same : Found datum (part :: parts) = Found next parts := by
        funext last
        simp only [Found, leads_cons steps]
      rw [blocked_cons steps, follow_cons, step_of_steps steps, same]
      exact ih next
    · rcases step_cases datum part with steps | ⟨⟨items, rfl⟩, misleads⟩ | nothing
      · exact absurd steps on
      · obtain ⟨fault, refused⟩ := step_of_misleads items misleads
        refine .inr ⟨not_not_intro (.inl ⟨⟨items, rfl⟩, misleads⟩), fault, by rw [follow, refused]⟩
      · refine .inl ⟨?_, .null, by rw [follow, nothing], .inr ⟨rfl, fun _ ⟨next, steps, _⟩ => on ⟨next, steps⟩⟩⟩
        rintro (⟨⟨items, rfl⟩, misleads⟩ | ⟨next, steps, -⟩)
        · obtain ⟨fault, refused⟩ := step_of_misleads items misleads
          cases refused.symm.trans nothing
        · exact on ⟨next, steps⟩

/-- A path leads to one datum at most. -/
theorem Leads.unique {datum a b : Json} {parts : List String} (first : Leads datum parts a)
    (second : Leads datum parts b) : a = b := by
  induction parts generalizing datum with
  | nil => exact first.trans second.symm
  | cons part parts ih =>
    obtain ⟨next, steps, on⟩ := first
    exact ih on ((leads_cons steps).mp second)

end TriggerFlow.Path

/-! ## Rendering -/

namespace TriggerFlow

namespace Json

mutual

/-- The texts in a datum, in order. -/
def texts : Json → List String
  | .text s => [s]
  | .list items => textsOfItems items
  | .object members => textsOfMembers members
  | _ => []

def textsOfItems : List Json → List String
  | [] => []
  | item :: items => texts item ++ textsOfItems items

def textsOfMembers : List (String × Json) → List String
  | [] => []
  | (_, value) :: members => texts value ++ textsOfMembers members

end

mutual

/-- Two data of one shape: the same names in the same order, lists of the same lengths, and the same leaves, but for the
texts, which are related. -/
def Alike (change : String → String → Prop) : Json → Json → Prop
  | .text s, .text t => change s t
  | .list items, .list others => ItemsAlike change items others
  | .object members, .object others => MembersAlike change members others
  | datum, other => datum = other

def ItemsAlike (change : String → String → Prop) : List Json → List Json → Prop
  | [], [] => True
  | item :: items, other :: others => Alike change item other ∧ ItemsAlike change items others
  | _, _ => False

def MembersAlike (change : String → String → Prop) : List (String × Json) → List (String × Json) → Prop
  | [], [] => True
  | (key, value) :: members, (name, other) :: others =>
    key = name ∧ Alike change value other ∧ MembersAlike change members others
  | _, _ => False

end

end Json

namespace Template

/-- Where a placeholder's path leads; blanks around the path do not count. -/
def Names (vars : Members) (path : List Char) (datum : Json) : Prop :=
  Path.Leads (.object vars) (Path.parts (String.ofList (Text.trim path))) datum

/-- A placeholder can be filled in: no list on its way is in the way, and what it names, if anything, has a text. -/
def Fits (vars : Members) (path : List Char) : Prop :=
  ¬ Path.Blocked (.object vars) (Path.parts (String.ofList (Text.trim path))) ∧
    ∀ datum, Names vars path datum → datum.isWritable = true

/-- Pieces with their placeholders filled in. One that names nothing leaves nothing behind. -/
inductive Fills (vars : Members) : List Piece → List Char → Prop
  | done : Fills vars [] []
  | char (c : Char) {pieces : List Piece} {text : List Char} (later : Fills vars pieces text) :
      Fills vars (.char c :: pieces) (c :: text)
  | named {path : List Char} {datum : Json} {pieces : List Piece} {text : List Char} (names : Names vars path datum)
      (later : Fills vars pieces text) : Fills vars (.placeholder path :: pieces) ((insertText datum).toList ++ text)
  | unnamed {path : List Char} {pieces : List Piece} {text : List Char} (nothing : ∀ datum, ¬ Names vars path datum)
      (later : Fills vars pieces text) : Fills vars (.placeholder path :: pieces) text

open TriggerFlow.Path (Answers)

/-- A placeholder has a text just if it can be filled in, and it is that of what it names. -/
theorem placeholder_answers (vars : Members) (path : List Char) :
    Answers ((Piece.placeholder path).render vars) (Fits vars path) fun text =>
      (∃ datum, Names vars path datum ∧ text = insertText datum) ∨ (∀ datum, ¬ Names vars path datum) ∧ text = "" := by
  have looked : Answers (lookUp vars path) _ _ :=
    Path.follow_answers (.object vars) (Path.parts (String.ofList (Text.trim path)))
  rw [Piece.render]
  rcases looked with ⟨free, datum, found, leads⟩ | ⟨blocked, fault, refused⟩
  · rw [found]
    change Answers (if datum.isWritable = true then _ else _) _ _
    rcases leads with names | ⟨rfl, nothing⟩
    · split
      · rename_i writable
        exact .inl ⟨⟨free, fun other also => also.unique names ▸ writable⟩, _, rfl, .inl ⟨datum, names, rfl⟩⟩
      · rename_i unwritable
        exact .inr ⟨fun fits => unwritable (fits.2 datum names), _, rfl⟩
    · exact .inl ⟨⟨free, fun other names => absurd names (nothing other)⟩, "", rfl, .inr ⟨nothing, rfl⟩⟩
  · exact .inr ⟨fun fits => blocked fits.1, fault, by rw [refused]; rfl⟩

/-- Pieces are rendered just if every placeholder among them can be filled in. -/
theorem renderPieces_answers (vars : Members) (pieces : List Piece) :
    Answers (renderPieces vars pieces) (∀ path, .placeholder path ∈ pieces → Fits vars path)
      fun text => Fills vars pieces text.toList := by
  induction pieces with
  | nil => exact .inl ⟨nofun, "", rfl, .done⟩
  | cons piece pieces ih =>
    rw [renderPieces]
    cases piece with
    | char c =>
      have front : Answers ((Piece.char c).render vars) True (· = c.toString) := .inl ⟨trivial, _, rfl, rfl⟩
      refine (front.both ih fun first text is fills => ?_).congr (by simp)
      simpa [is] using Fills.char c fills
    | placeholder path =>
      refine ((placeholder_answers vars path).both ih fun first text is fills => ?_).congr (by simp)
      simp only [String.toList_append]
      rcases is with ⟨datum, names, rfl⟩ | ⟨nothing, rfl⟩
      · exact .named names fills
      · exact .unnamed nothing fills

/-- Every placeholder in a text can be filled in. -/
def TextFits (vars : Members) (text : String) : Prop := ∀ path, .placeholder path ∈ pieces text → Fits vars path

/-- A text with its placeholders filled in. -/
def Filled (vars : Members) (text result : String) : Prop := Fills vars (pieces text) result.toList

theorem renderText_answers (vars : Members) (text : String) :
    Answers (renderText vars text) (TextFits vars text) (Filled vars text) := renderPieces_answers vars (pieces text)

mutual

/-- A datum is rendered just if every text in it can be, and keeps its shape. -/
theorem render_answers (vars : Members) : ∀ datum : Json,
    Answers (render vars datum) (∀ text ∈ datum.texts, TextFits vars text) (datum.Alike (Filled vars))
  | .text s => by
    refine (Answers.map (renderText_answers vars s) fun result filled => ?_).congr (by simp [Json.texts])
    exact filled
  | .list items => Answers.map (renderItems_answers vars items) fun _ alike => alike
  | .object members => Answers.map (renderMembers_answers vars members) fun _ alike => alike
  | .null | .bool _ | .int _ | .float _ => .inl ⟨nofun, _, rfl, rfl⟩

theorem renderItems_answers (vars : Members) : ∀ items : List Json,
    Answers (renderItems vars items) (∀ text ∈ Json.textsOfItems items, TextFits vars text)
      (Json.ItemsAlike (Filled vars) items)
  | [] => .inl ⟨nofun, [], rfl, trivial⟩
  | item :: items => by
    refine ((render_answers vars item).both (renderItems_answers vars items)
      fun first others alike also => ?_).congr ?_
    · exact ⟨alike, also⟩
    · simp [Json.textsOfItems, or_imp, forall_and]

theorem renderMembers_answers (vars : Members) : ∀ members : List (String × Json),
    Answers (renderMembers vars members) (∀ text ∈ Json.textsOfMembers members, TextFits vars text)
      (Json.MembersAlike (Filled vars) members)
  | [] => .inl ⟨nofun, [], rfl, trivial⟩
  | (key, value) :: members => by
    refine ((render_answers vars value).both (renderMembers_answers vars members)
      fun first others alike also => ?_).congr ?_
    · exact ⟨rfl, alike, also⟩
    · simp [Json.textsOfMembers, or_imp, forall_and]

end

end Template

namespace Context

/-- A lookup answers just if its path is not blocked, with what the path leads to or null. Rendering answers just if
every placeholder can be filled in, with a datum of the same shape, in which a placeholder that names nothing has left
nothing behind. -/
theorem fills_in (context : Context) :
    (∀ path, Path.Answers (context.lookUp path) (¬ Path.Blocked (.object context.data) (Path.parts path))
      (Path.Found (.object context.data) (Path.parts path))) ∧
    ∀ datum, Path.Answers (context.render datum) (∀ text ∈ datum.texts, Template.TextFits context.data text)
      (datum.Alike (Template.Filled context.data)) :=
  ⟨fun path => Path.follow_answers (.object context.data) (Path.parts path),
    fun datum => Template.render_answers context.data datum⟩

end Context

namespace Trial

/-- A list, and an object with a name that looks like a placeholder. -/
def order : Context :=
  ⟨[("items", .list [.text "tea", .text "milk"]), ("client", .object [("name", .text "\x7b\x7bitems\x7d\x7d")])]⟩

/-- A letter with items that are counted from both ends, and with one that is not there. -/
def letter : Json :=
  .object [("to", .text "\x7b\x7b client.name \x7d\x7d"), ("copies", .int 2),
    ("lines", .list [.text "\x7b\x7bitems.0\x7d\x7d, \x7b\x7bitems.-1\x7d\x7d\x7b\x7bitems.2\x7d\x7d.", .null])]

theorem order_fills_in :
    (order.render letter = .ok (.object [("to", .text "\x7b\x7bitems\x7d\x7d"), ("copies", .int 2),
        ("lines", .list [.text "tea, milk.", .null])]) ∧
      letter.Alike (Template.Filled order.data) (.object [("to", .text "\x7b\x7bitems\x7d\x7d"), ("copies", .int 2),
        ("lines", .list [.text "tea, milk.", .null])])) ∧
    order.lookUp "items.²" = .error (.notAnIndex "²") ∧
      Path.Blocked (.object order.data) (Path.parts "items.²") := by
  have rendered : order.render letter = .ok (.object [("to", .text "\x7b\x7bitems\x7d\x7d"), ("copies", .int 2),
      ("lines", .list [.text "tea, milk.", .null])]) := by decide +kernel
  have refused : order.lookUp "items.²" = .error (.notAnIndex "²") := by decide +kernel
  exact ⟨⟨rendered, (order.fills_in.2 letter).kind_of_ok rendered⟩, refused,
    not_not.mp ((order.fills_in.1 "items.²").error_iff.mp ⟨_, refused⟩)⟩

end Trial

end TriggerFlow
