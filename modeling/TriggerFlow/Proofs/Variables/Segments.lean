import TriggerFlow.Variables.Context

/-!
# Templates by the segment

A template that is put together from literal chunks and placeholders comes apart into just these: no chunk begins a
placeholder, and a placeholder goes up to the first closing brace. So it is rendered segment by segment, in one pass, and
what a placeholder gives way to is never taken for a part of the template.
-/

namespace TriggerFlow.Template

/-- A segment of a template: characters with no opening brace among them, or a placeholder. -/
inductive Segment where
  | literal (text : List Char) (plain : '\x7b' ∉ text)
  | placeholder (path : List Char) (named : path ≠ []) (closed : '\x7d' ∉ path)

/-- The characters of a segment. -/
def Segment.chars : Segment → List Char
  | .literal text _ => text
  | .placeholder path .. => '\x7b' :: '\x7b' :: (path ++ ['\x7d', '\x7d'])

/-- The pieces of a segment. -/
def Segment.pieces : Segment → List Piece
  | .literal text _ => text.map .char
  | .placeholder path .. => [.placeholder path]

/-- The template that segments make up. -/
def written (segments : List Segment) : String := String.ofList (segments.flatMap Segment.chars)

/-- A segment with the data that placeholders name. -/
def Segment.filled (datum : List Char → Json) : Segment → String
  | .literal text _ => String.ofList text
  | .placeholder path .. => insertText (datum path)

/-- Characters that come apart into these pieces, given fuel for each of them. -/
def ComesApart (chars : List Char) (pieces : List Piece) : Prop :=
  ∀ fuel, chars.length ≤ fuel → piecesWithin fuel chars = pieces

namespace ComesApart

variable {chars : List Char} {pieces : List Piece}

theorem nil : ComesApart [] [] := by
  rintro (- | fuel) - <;> rfl

theorem char {c : Char} (apart : ComesApart chars pieces) (plain : c ≠ '\x7b') :
    ComesApart (c :: chars) (.char c :: pieces) := by
  rintro (- | fuel) enough
  · cases enough
  · have none : placeholder? (c :: chars) = none := by
      rw [placeholder?]
      rintro rest ⟨⟩
      exact plain rfl
    rw [piecesWithin, none]
    exact congrArg _ (apart fuel (by simpa using enough))

theorem literal {text : List Char} (apart : ComesApart chars pieces) (plain : '\x7b' ∉ text) :
    ComesApart (text ++ chars) (text.map .char ++ pieces) := by
  induction text with
  | nil => exact apart
  | cons c text ih =>
    obtain ⟨first, others⟩ := List.ne_and_not_mem_of_not_mem_cons plain
    exact (ih others).char first.symm

theorem placeholder {path : List Char} (apart : ComesApart chars pieces) (named : path ≠ []) (closed : '\x7d' ∉ path) :
    ComesApart ('\x7b' :: '\x7b' :: (path ++ ['\x7d', '\x7d']) ++ chars) (.placeholder path :: pieces) := by
  have open_ : ∀ c ∈ path, decide (c ≠ '\x7d') = true := fun c mem => decide_eq_true (fun is => closed (is ▸ mem))
  rintro (- | fuel) enough
  · cases enough
  · have found : placeholder? ('\x7b' :: '\x7b' :: (path ++ ['\x7d', '\x7d']) ++ chars) = some (path, chars) := by
      simp only [List.cons_append, List.append_assoc, List.nil_append, placeholder?]
      rw [List.takeWhile_append_of_pos open_, List.dropWhile_append_of_pos open_]
      simp [named]
    rw [List.cons_append, piecesWithin, ← List.cons_append, found]
    refine congrArg _ (apart fuel ?_)
    simp only [List.cons_append, List.length_cons, List.length_append] at enough
    omega

theorem segments (segments : List Segment) :
    ComesApart (segments.flatMap Segment.chars) (segments.flatMap Segment.pieces) := by
  induction segments with
  | nil => exact nil
  | cons segment segments ih =>
    cases segment with
    | literal text plain => exact ih.literal plain
    | placeholder path named closed => exact ih.placeholder named closed

end ComesApart

/-- A template comes apart into the pieces of its segments. -/
theorem pieces_written (segments : List Segment) : pieces (written segments) = segments.flatMap Segment.pieces := by
  rw [pieces, written, String.toList_ofList]
  exact ComesApart.segments segments _ (by simp)

/-- Pieces are rendered one after the other. -/
theorem renderPieces_append (vars : Members) (front back : List Piece) :
    renderPieces vars (front ++ back) = (do
      let first ← renderPieces vars front
      let second ← renderPieces vars back
      .ok (first ++ second)) := by
  induction front with
  | nil =>
    simp only [List.nil_append, renderPieces]
    cases renderPieces vars back with
    | error fault => rfl
    | ok text => simp [bind, Except.bind]
  | cons piece front ih =>
    simp only [List.cons_append, renderPieces, ih]
    cases piece.render vars with
    | error fault => rfl
    | ok text =>
      cases renderPieces vars front with
      | error fault => rfl
      | ok more =>
        cases renderPieces vars back with
        | error fault => rfl
        | ok rest => simp [bind, Except.bind, String.append_assoc]

theorem renderPieces_literal (vars : Members) (text : List Char) :
    renderPieces vars (text.map .char) = .ok (String.ofList text) := by
  induction text with
  | nil => rfl
  | cons c text ih =>
    rw [List.map_cons, renderPieces, ih]
    refine congrArg Except.ok ?_
    simp [Char.toString]

theorem renderPieces_segment {vars : Members} {segment : Segment} {datum : List Char → Json}
    (found : ∀ path named closed, segment = .placeholder path named closed →
      Path.resolve vars (String.ofList (Text.trim path)) = .ok (datum path) ∧ (datum path).isWritable = true) :
    renderPieces vars segment.pieces = .ok (segment.filled datum) := by
  cases segment with
  | literal text plain => exact renderPieces_literal vars text
  | placeholder path named closed =>
    obtain ⟨is, writable⟩ := found path named closed rfl
    rw [Segment.pieces, renderPieces, Piece.render, lookUp, is]
    change ((if (datum path).isWritable = true then _ else _) >>= _) = _
    rw [if_pos writable]
    simp [renderPieces, Segment.filled, bind, Except.bind]

/-- A template made of segments comes out as its literal chunks with the texts of the data between them, each put in as
it is; and of two such templates in a row, each is rendered on its own. -/
theorem renders_once (vars : Members) (segments : List Segment) (datum : List Char → Json)
    (found : ∀ path named closed, .placeholder path named closed ∈ segments →
      Path.resolve vars (String.ofList (Text.trim path)) = .ok (datum path) ∧ (datum path).isWritable = true) :
    renderText vars (written segments) = .ok (String.join (segments.map (Segment.filled datum))) ∧
      ∀ others, renderText vars (written segments ++ written others) = (do
        let front ← renderText vars (written segments)
        let back ← renderText vars (written others)
        .ok (front ++ back)) := by
  constructor
  · rw [renderText, pieces_written]
    induction segments with
    | nil => rfl
    | cons segment segments ih =>
      have first : renderPieces vars segment.pieces = .ok (segment.filled datum) :=
        renderPieces_segment fun path named closed is => found path named closed (is ▸ List.mem_cons_self ..)
      have others := ih fun path named closed mem => found path named closed (List.mem_cons_of_mem _ mem)
      rw [List.flatMap_cons, renderPieces_append, first, others, List.map_cons]
      simp [bind, Except.bind]
  · intro others
    have joined : written segments ++ written others = written (segments ++ others) := by
      simp [written, String.ofList_append]
    rw [joined, renderText, renderText, renderText, pieces_written, pieces_written, pieces_written, List.flatMap_append,
      renderPieces_append]

end TriggerFlow.Template

namespace TriggerFlow.Trial

open Template

/-- A name that is itself spelled like a placeholder, and a member whose name holds an opening brace. -/
def stall : Members := [("name", .text "\x7b\x7bprice\x7d\x7d"), ("price", .int 3), ("\x7bp", .bool true)]

/-- A stray closing brace, two placeholders in a row, an opening brace inside a placeholder, and a name for nothing. -/
def label : List Segment :=
  [.literal "\x7d: ".toList (by decide), .placeholder " name ".toList (by decide) (by decide),
    .placeholder "price".toList (by decide) (by decide), .literal "\x7d\x7d ".toList (by decide),
    .placeholder "\x7bp".toList (by decide) (by decide), .placeholder "tax".toList (by decide) (by decide)]

/-- What the placeholders of the label name. -/
def onLabel (path : List Char) : Json :=
  match String.ofList path with
  | " name " => .text "\x7b\x7bprice\x7d\x7d"
  | "price" => .int 3
  | "\x7bp" => .bool true
  | _ => .null

theorem label_renders_once :
    renderText stall (written label) = .ok "\x7d: \x7b\x7bprice\x7d\x7d3\x7d\x7d true" ∧
      renderText stall (written label ++ written label) =
        .ok "\x7d: \x7b\x7bprice\x7d\x7d3\x7d\x7d true\x7d: \x7b\x7bprice\x7d\x7d3\x7d\x7d true" := by
  have found : ∀ path named closed, .placeholder path named closed ∈ label →
      Path.resolve stall (String.ofList (Text.trim path)) = .ok (onLabel path) ∧ (onLabel path).isWritable = true := by
    intro path named closed mem
    simp only [label, List.mem_cons, List.not_mem_nil, reduceCtorEq, Segment.placeholder.injEq, false_or, or_false] at mem
    obtain rfl | rfl | rfl | rfl := mem <;> exact ⟨rfl, rfl⟩
  obtain ⟨once, twice⟩ := renders_once stall label onLabel found
  have text : String.join (label.map (Segment.filled onLabel)) = "\x7d: \x7b\x7bprice\x7d\x7d3\x7d\x7d true" := rfl
  rw [text] at once
  refine ⟨once, ?_⟩
  rw [twice label, once]
  rfl

end TriggerFlow.Trial
