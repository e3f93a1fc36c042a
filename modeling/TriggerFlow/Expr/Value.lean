import TriggerFlow.Json
import TriggerFlow.Text.Trim

/-!
The values of expressions: structured data, and beside them what literals can write and data cannot
hold. Numbers of all kinds are compared exactly, by their places on the extended number line.
-/

namespace TriggerFlow.Expr

open Binary64 (Point)

/-- The value of an expression. -/
inductive Value where
  | null
  | bool (b : Bool)
  | int (n : Int)
  | float (x : Binary64)
  | complex (re im : Binary64)
  | text (s : String)
  | bytes (bs : List UInt8)
  | ellipsis
  | list (items : List Value)
  | tuple (items : List Value)
  | dict (members : List (String × Value))
  deriving Inhabited, Repr

/-- Why an expression of the language has no value. -/
inductive EvalFault where
  | notOrdered (symbol left right : String)
  | notIterable (type : String)
  | needsText (type : String)
  | needsBytes (type : String)
  | byteRange
  | unhashable (type : String)
  | notNegatable (type : String)
  /-- A construct outside the language. -/
  | element (name : String)
  deriving DecidableEq, Repr

/-- The text of a fault. -/
def EvalFault.message : EvalFault → String
  | .notOrdered symbol left right =>
    "'" ++ symbol ++ "' not supported between instances of '" ++ left ++ "' and '" ++ right ++ "'"
  | .notIterable type => "argument of type '" ++ type ++ "' is not iterable"
  | .needsText type => "'in <string>' requires string as left operand, not " ++ type
  | .needsBytes type => "a bytes-like object is required, not '" ++ type ++ "'"
  | .byteRange => "byte must be in range(0, 256)"
  | .unhashable type => "unhashable type: '" ++ type ++ "'"
  | .notNegatable type => "bad operand type for unary -: '" ++ type ++ "'"
  | .element name => "Unsupported expression element: " ++ name

namespace Value

mutual

/-- A datum as a value. -/
def ofJson : Json → Value
  | .null => .null
  | .bool b => .bool b
  | .int n => .int n
  | .float x => .float x
  | .text s => .text s
  | .list items => .list (ofItems items)
  | .object members => .dict (ofMembers members)

def ofItems : List Json → List Value
  | [] => []
  | item :: items => ofJson item :: ofItems items

def ofMembers : List (String × Json) → List (String × Value)
  | [] => []
  | (key, value) :: members => (key, ofJson value) :: ofMembers members

end

/-- The name of the type of a value, as messages use it. -/
def typeName : Value → String
  | .null => "NoneType"
  | .bool _ => "bool"
  | .int _ => "int"
  | .float _ => "float"
  | .complex .. => "complex"
  | .text _ => "str"
  | .bytes _ => "bytes"
  | .ellipsis => "ellipsis"
  | .list _ => "list"
  | .tuple _ => "tuple"
  | .dict _ => "dict"

/-- Empty values count as false: null, false, every zero, and whatever has no content. -/
def isTruthy : Value → Bool
  | .null => false
  | .bool b => b
  | .int n => n ≠ 0
  | .float x => !x.isZero
  | .complex re im => !(re.isZero && im.isZero)
  | .text s => s ≠ ""
  | .bytes bs => !bs.isEmpty
  | .ellipsis => true
  | .list items => !items.isEmpty
  | .tuple items => !items.isEmpty
  | .dict members => !members.isEmpty

/-- The place of a real number: truth values count as one and zero. A NaN has no place. -/
def real? : Value → Option (Option Point)
  | .bool b => some (some (.scaled (if b then 1 else 0) 0))
  | .int n => some (some (.scaled n 0))
  | .float x => some x.point?
  | _ => none

/-- The places of the parts of a number. -/
def number? : Value → Option (Option Point × Option Point)
  | .complex re im => some (re.point?, im.point?)
  | v => v.real?.map fun p => (p, some (.scaled 0 0))

/-- Two places are there and are the same. -/
def samePlace (p q : Option Point) : Bool :=
  match p, q with
  | some p, some q => p.compare q = .eq
  | _, _ => false

mutual

/-- Equality of values. Numbers are equal across kinds, lists and tuples are not, and the order of
members does not matter. -/
def equal (a b : Value) : Bool :=
  match a, b with
  | .null, .null => true
  | .ellipsis, .ellipsis => true
  | .text s, .text t => s = t
  | .bytes s, .bytes t => s = t
  | .list s, .list t => equalItems s t
  | .tuple s, .tuple t => equalItems s t
  | .dict s, .dict t => s.length = t.length && equalMembers s t
  | a, b =>
    match a.number?, b.number? with
    | some m, some n => samePlace m.1 n.1 && samePlace m.2 n.2
    | _, _ => false

def equalItems : List Value → List Value → Bool
  | [], [] => true
  | a :: as, b :: bs => equal a b && equalItems as bs
  | _, _ => false

/-- Every member of the first has an equal one of its name in the second. -/
def equalMembers : List (String × Value) → List (String × Value) → Bool
  | [], _ => true
  | (key, a) :: rest, members =>
    (match Ordered.get? members key with
      | some b => equal a b
      | none => false) && equalMembers rest members

end

/-- The four ways to ask for an order. -/
inductive Relation where
  | lt | le | gt | ge
  deriving DecidableEq, Repr

def Relation.symbol : Relation → String
  | .lt => "<" | .le => "<=" | .gt => ">" | .ge => ">="

def Relation.accepts : Relation → Ordering → Bool
  | .lt, o => o = .lt
  | .le, o => o ≠ .gt
  | .gt, o => o = .gt
  | .ge, o => o ≠ .lt

/-- The order of two byte sequences, by the first difference and else by length. -/
def compareBytes : List UInt8 → List UInt8 → Ordering
  | [], [] => .eq
  | [], _ :: _ => .lt
  | _ :: _, [] => .gt
  | a :: as, b :: bs => if a = b then compareBytes as bs else compare a b

mutual

/-- Whether two values stand in a relation. Numbers, texts, byte sequences, lists and tuples are
ordered, each among themselves. -/
def related (r : Relation) (a b : Value) : Except EvalFault Bool :=
  match a, b with
  | .text s, .text t => .ok (r.accepts (compare s t))
  | .bytes s, .bytes t => .ok (r.accepts (compareBytes s t))
  | .list s, .list t => relatedItems r s t
  | .tuple s, .tuple t => relatedItems r s t
  | a, b =>
    match a.real?, b.real? with
    | some p, some q =>
      match p, q with
      | some p, some q => .ok (r.accepts (p.compare q))
      | _, _ => .ok false
    | _, _ => .error (.notOrdered r.symbol a.typeName b.typeName)

/-- Sequences are ordered by their first items that are not equal, and else by length. -/
def relatedItems (r : Relation) : List Value → List Value → Except EvalFault Bool
  | [], [] => .ok (r.accepts .eq)
  | [], _ :: _ => .ok (r.accepts .lt)
  | _ :: _, [] => .ok (r.accepts .gt)
  | a :: as, b :: bs => if equal a b then relatedItems r as bs else related r a b

end

mutual

/-- The type that keeps a value from being a key. -/
def unhashable? : Value → Option String
  | .list _ => some "list"
  | .dict _ => some "dict"
  | .tuple items => unhashableItem? items
  | _ => none

def unhashableItem? : List Value → Option String
  | [] => none
  | item :: items => (unhashable? item).or (unhashableItem? items)

end

/-- Whether a byte sequence occurs inside another. -/
def bytesInfix (part : List UInt8) : List UInt8 → Bool
  | [] => part.isEmpty
  | b :: rest => part.isPrefixOf (b :: rest) || bytesInfix part rest

/-- Whether a byte sequence has a number among its bytes. -/
def hasByte (n : Int) (bs : List UInt8) : Except EvalFault Bool :=
  if 0 ≤ n ∧ n < 256 then .ok (bs.any fun b => (b.toNat : Int) = n) else .error .byteRange

/-- Whether a container holds a value: a part of a text, an item, a name of a member. -/
def isIn (item container : Value) : Except EvalFault Bool :=
  match container with
  | .text t =>
    match item with
    | .text s => .ok (Text.isInfix s.toList t.toList)
    | _ => .error (.needsText item.typeName)
  | .bytes t =>
    match item with
    | .bytes s => .ok (bytesInfix s t)
    | .int n => hasByte n t
    | .bool b => hasByte (if b then 1 else 0) t
    | _ => .error (.needsBytes item.typeName)
  | .list items => .ok (items.any fun other => equal item other)
  | .tuple items => .ok (items.any fun other => equal item other)
  | .dict members =>
    match unhashable? item with
    | some type => .error (.unhashable type)
    | none =>
      match item with
      | .text key => .ok (Ordered.has members key)
      | _ => .ok false
  | _ => .error (.notIterable container.typeName)

/-- The negative of a number. -/
def negate : Value → Except EvalFault Value
  | .bool b => .ok (.int (if b then -1 else 0))
  | .int n => .ok (.int (-n))
  | .float x => .ok (.float (-x))
  | .complex re im => .ok (.complex (-re) (-im))
  | v => .error (.notNegatable v.typeName)

/-- The item at an index, counted from the end if it is negative; null if there is none. -/
def itemAt (items : List Value) (index : Int) : Value :=
  let place := if index < 0 then index + items.length else index
  if place < 0 then .null else (items[place.toNat]?).getD .null

end Value

end TriggerFlow.Expr
