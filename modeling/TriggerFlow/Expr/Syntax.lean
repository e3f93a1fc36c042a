import TriggerFlow.Number.Binary64

/-!
The syntax of condition expressions. The grammar is wider than the language: an expression may be well
formed and still use a construct that conditions leave out, and such a construct is kept by its name
alone.
-/

namespace TriggerFlow.Expr

/-- A literal. -/
inductive Constant where
  | null
  | bool (b : Bool)
  | int (n : Int)
  | float (x : Binary64)
  /-- A multiple of the imaginary unit. -/
  | imaginary (x : Binary64)
  | text (s : String)
  | bytes (bs : List UInt8)
  | ellipsis
  deriving DecidableEq, Repr, Inhabited

inductive CompareOp where
  | eq | ne | lt | le | gt | ge | isIn | notIn | same | notSame
  deriving DecidableEq, Repr, Inhabited

/-- The operators between two operands that conditions know. -/
def CompareOp.isSupported : CompareOp → Bool
  | .same | .notSame => false
  | _ => true

/-- The element name of an operator, as messages use it. -/
def CompareOp.elementName : CompareOp → String
  | .eq => "Eq" | .ne => "NotEq" | .lt => "Lt" | .le => "LtE" | .gt => "Gt" | .ge => "GtE"
  | .isIn => "In" | .notIn => "NotIn" | .same => "Is" | .notSame => "IsNot"

inductive UnaryOp where
  | not | minus | plus | invert
  deriving DecidableEq, Repr, Inhabited

def UnaryOp.elementName : UnaryOp → String
  | .not => "Not" | .minus => "USub" | .plus => "UAdd" | .invert => "Invert"

/-- How a junction joins its parts. -/
inductive Junction where
  | all | any
  deriving DecidableEq, Repr, Inhabited

/-- The constructs outside the language. -/
inductive Foreign where
  | arithmetic | call | function | conditional | assignment
  | listComprehension | setComprehension | dictComprehension | generator
  | dict | set | formatted | slice | await | yield | yieldFrom
  deriving DecidableEq, Repr, Inhabited

def Foreign.elementName : Foreign → String
  | .arithmetic => "BinOp" | .call => "Call" | .function => "Lambda" | .conditional => "IfExp"
  | .assignment => "NamedExpr" | .listComprehension => "ListComp" | .setComprehension => "SetComp"
  | .dictComprehension => "DictComp" | .generator => "GeneratorExp" | .dict => "Dict" | .set => "Set"
  | .formatted => "JoinedStr" | .slice => "Slice" | .await => "Await" | .yield => "Yield"
  | .yieldFrom => "YieldFrom"

/-- A well-formed expression. -/
inductive Term where
  | constant (c : Constant)
  | name (id : String)
  | attribute (value : Term) (name : String)
  | subscript (value key : Term)
  | compare (left : Term) (rest : List (CompareOp × Term))
  | junction (j : Junction) (parts : List Term)
  | unary (op : UnaryOp) (operand : Term)
  | list (items : List Term)
  | tuple (items : List Term)
  | starred (value : Term)
  | foreign (f : Foreign)
  deriving Repr, Inhabited

end TriggerFlow.Expr
