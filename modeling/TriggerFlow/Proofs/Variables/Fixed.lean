import TriggerFlow.Graph.Check

/-!
# Settings without placeholders

A text in which no placeholder is found is made of single characters, and each of them is put back where it was. So a
datum with no placeholder in any of its texts is the same whatever the variables are.
-/

namespace TriggerFlow.Template

mutual

/-- Whether no text in a datum holds a placeholder. The names of members are never looked at. -/
def isFixed : Json → Bool
  | .text s => !hasPlaceholder s
  | .list items => itemsFixed items
  | .object members => membersFixed members
  | _ => true

def itemsFixed : List Json → Bool
  | [] => true
  | item :: items => isFixed item && itemsFixed items

def membersFixed : List (String × Json) → Bool
  | [] => true
  | (_, value) :: members => isFixed value && membersFixed members

end

/-- Characters that hold no placeholder come back one by one. -/
theorem renderPieces_of_plain (vars : Members) : ∀ (fuel : Nat) (chars : List Char), chars.length ≤ fuel →
    ((piecesWithin fuel chars).any fun piece => match piece with
      | .placeholder _ => true
      | .char _ => false) = false → renderPieces vars (piecesWithin fuel chars) = .ok (String.ofList chars)
  | 0, [], _, _ => rfl
  | _ + 1, [], _, _ => rfl
  | fuel + 1, c :: rest, enough, plain => by
    rw [piecesWithin] at plain ⊢
    split at plain
    · simp at plain
    · have later := renderPieces_of_plain vars fuel rest (by simpa using enough) (by simpa using plain)
      rw [renderPieces, later]
      refine congrArg Except.ok ?_
      simp [Char.toString]

theorem renderText_of_plain (vars : Members) {text : String} (plain : hasPlaceholder text = false) :
    renderText vars text = .ok text := by
  rw [renderText, pieces, renderPieces_of_plain vars text.length text.toList (Nat.le_of_eq String.length_toList) plain,
    String.ofList_toList]

mutual

theorem render_of_fixed (vars : Members) : ∀ {datum : Json}, isFixed datum = true → render vars datum = .ok datum
  | .text s, fixed => by
    rw [render, renderText_of_plain vars (by simpa [isFixed] using fixed)]
    rfl
  | .list items, fixed => by
    rw [render, renderItems_of_fixed vars (by simpa [isFixed] using fixed)]
    rfl
  | .object members, fixed => by
    rw [render, renderMembers_of_fixed vars (by simpa [isFixed] using fixed)]
    rfl
  | .null, _ | .bool _, _ | .int _, _ | .float _, _ => rfl

theorem renderItems_of_fixed (vars : Members) : ∀ {items : List Json}, itemsFixed items = true →
    renderItems vars items = .ok items
  | [], _ => rfl
  | item :: items, fixed => by
    obtain ⟨first, others⟩ : isFixed item = true ∧ itemsFixed items = true := by simpa [itemsFixed] using fixed
    rw [renderItems, render_of_fixed vars first, renderItems_of_fixed vars others]
    rfl

/-- Settings without placeholders are used as they stand. -/
theorem renderMembers_of_fixed (vars : Members) : ∀ {members : List (String × Json)}, membersFixed members = true →
    renderMembers vars members = .ok members
  | [], _ => rfl
  | (key, value) :: members, fixed => by
    obtain ⟨first, others⟩ : isFixed value = true ∧ membersFixed members = true := by
      simpa [membersFixed] using fixed
    rw [renderMembers, render_of_fixed vars first, renderMembers_of_fixed vars others]
    rfl

end

/-- Where no text holds a placeholder, no setting does. -/
theorem isFixed_member {members : Members} (fixed : membersFixed members = true) (key : String) :
    isFixed (Json.member members key) = true := by
  induction members with
  | nil => rfl
  | cons pair rest ih =>
    obtain ⟨name, value⟩ := pair
    obtain ⟨first, others⟩ : isFixed value = true ∧ membersFixed rest = true := by simpa [membersFixed] using fixed
    by_cases same : name = key
    · simpa [Json.member, Ordered.get?, same] using first
    · simpa [Json.member, Ordered.get?, same] using ih others

theorem not_isTemplated {datum : Json} (fixed : isFixed datum = true) : Graph.isTemplated datum = false := by
  cases datum <;> simp_all [isFixed, Graph.isTemplated]

end TriggerFlow.Template
