import TriggerFlow.Number.Binary64
import TriggerFlow.Ordered

/-!
Structured data: the values that configurations, variables, payloads and documents are made of.
Integers are exact and of any size, and the members of an object keep their order.
-/

namespace TriggerFlow

/-- A structured datum. -/
inductive Json where
  | null
  | bool (b : Bool)
  | int (n : Int)
  | float (x : Binary64)
  | text (s : String)
  | list (items : List Json)
  | object (members : List (String × Json))
  deriving Inhabited, Repr

/-- The members of an object: named values in order. -/
abbrev Members := Ordered Json

namespace Json

mutual

/-- Equality of structure: the same shape with the same leaves, members in the same order. -/
def beq : Json → Json → Bool
  | .null, .null => true
  | .bool a, .bool b => a = b
  | .int a, .int b => a = b
  | .float a, .float b => a = b
  | .text a, .text b => a = b
  | .list a, .list b => beqItems a b
  | .object a, .object b => beqMembers a b
  | _, _ => false

def beqItems : List Json → List Json → Bool
  | [], [] => true
  | a :: as, b :: bs => beq a b && beqItems as bs
  | _, _ => false

def beqMembers : List (String × Json) → List (String × Json) → Bool
  | [], [] => true
  | (k, a) :: as, (l, b) :: bs => k = l && beq a b && beqMembers as bs
  | _, _ => false

end

instance : BEq Json := ⟨beq⟩

mutual

theorem eq_of_beq {a b : Json} (h : beq a b = true) : a = b := by
  cases a <;> cases b <;> simp_all [beq]
  · exact eq_of_beqItems h
  · exact eq_of_beqMembers h

theorem eq_of_beqItems {as bs : List Json} (h : beqItems as bs = true) : as = bs := by
  cases as <;> cases bs <;> simp_all [beqItems]
  exact ⟨eq_of_beq h.1, eq_of_beqItems h.2⟩

theorem eq_of_beqMembers {as bs : List (String × Json)} (h : beqMembers as bs = true) :
    as = bs := by
  match as, bs with
  | [], [] => rfl
  | [], _ :: _ => simp [beqMembers] at h
  | _ :: _, [] => simp [beqMembers] at h
  | (k, a) :: as, (l, b) :: bs =>
    simp only [beqMembers, Bool.and_eq_true, decide_eq_true_eq] at h
    rw [h.1.1, eq_of_beq h.1.2, eq_of_beqMembers h.2]

end

mutual

theorem beq_refl (a : Json) : beq a a = true := by
  cases a with
  | list items => simp [beq, beqItems_refl items]
  | object members => simp [beq, beqMembers_refl members]
  | _ => simp [beq]

theorem beqItems_refl (as : List Json) : beqItems as as = true := by
  match as with
  | [] => rfl
  | a :: as => simp [beqItems, beq_refl a, beqItems_refl as]

theorem beqMembers_refl (as : List (String × Json)) : beqMembers as as = true := by
  match as with
  | [] => rfl
  | (k, a) :: as => simp [beqMembers, beq_refl a, beqMembers_refl as]

end

instance : LawfulBEq Json where
  eq_of_beq := eq_of_beq
  rfl {a} := beq_refl a

instance : DecidableEq Json := fun a b =>
  if h : beq a b = true then .isTrue (eq_of_beq h)
  else .isFalse fun e => h (e ▸ beq_refl a)

/-- The name of the kind of a datum, as messages use it. -/
def kindName : Json → String
  | .null => "NoneType"
  | .bool _ => "bool"
  | .int _ => "int"
  | .float _ => "float"
  | .text _ => "str"
  | .list _ => "list"
  | .object _ => "dict"

/-- Empty data count as false: null, false, zero, and texts, lists and objects without content. -/
def isTruthy : Json → Bool
  | .null => false
  | .bool b => b
  | .int n => n ≠ 0
  | .float x => !x.isZero
  | .text s => s ≠ ""
  | .list items => !items.isEmpty
  | .object members => !members.isEmpty

/-- The datum, or a default in the place of an empty one. -/
def orElse (datum fallback : Json) : Json := if datum.isTruthy then datum else fallback

/-- The member of an object; null if it is absent. -/
def member (members : Members) (key : String) : Json := (members.get? key).getD .null

def text? : Json → Option String
  | .text s => some s
  | _ => none

def object? : Json → Option Members
  | .object members => some members
  | _ => none

def list? : Json → Option (List Json)
  | .list items => some items
  | _ => none

/-- A text, or null in its absence. -/
def ofText? : Option String → Json
  | some s => .text s
  | none => .null

end Json

end TriggerFlow
