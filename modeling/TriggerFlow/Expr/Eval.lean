import TriggerFlow.Expr.Check
import TriggerFlow.Expr.Value

/-!
Evaluation of conditions against named data. A path that leads nowhere has the value null, so missing
data are no error; the errors are those of comparing what cannot be compared.
-/

namespace TriggerFlow.Expr

/-- Why an expression has no value. -/
inductive Fault where
  | refused (r : Refusal)
  | failed (expression : String) (cause : EvalFault)
  deriving DecidableEq, Repr

/-- The text of a fault. -/
def Fault.message : Fault → String
  | .refused r => r.message
  | .failed _ (.element name) => (EvalFault.element name).message
  | .failed expression cause => "Cannot evaluate " ++ Text.quoted expression ++ ": " ++ cause.message

/-- Whether a fault is a fault of the expression. A text with the zero character is no expression at
all. -/
def Fault.isExpression : Fault → Bool
  | .refused .zeroCharacter => false
  | _ => true

/-- The value of a literal. -/
def Constant.value : Constant → Value
  | .null => .null
  | .bool b => .bool b
  | .int n => .int n
  | .float x => .float x
  | .imaginary x => .complex (.zero false) x
  | .text s => .text s
  | .bytes bs => .bytes bs
  | .ellipsis => .ellipsis

/-- The names that stand for values unless data of that name are given. -/
def namedConstants : List (String × Value) :=
  [("true", .bool true), ("false", .bool false), ("null", .null), ("none", .null),
    ("undefined", .null), ("True", .bool true), ("False", .bool false), ("None", .null)]

/-- The value of a name. -/
def nameValue (context : Members) (id : String) : Value :=
  match context.get? id with
  | some datum => .ofJson datum
  | none => (namedConstants.lookup id).getD .null

/-- The member or item of a value at a literal key; null if there is none. -/
def lookUp (value : Value) (key : Constant) : Value :=
  match value, key with
  | .dict members, .text k => (Ordered.get? members k).getD .null
  | .list items, .int n => Value.itemAt items n
  | .list items, .bool b => Value.itemAt items (if b then 1 else 0)
  | .tuple items, .int n => Value.itemAt items n
  | .tuple items, .bool b => Value.itemAt items (if b then 1 else 0)
  | _, _ => .null

/-- One comparison. -/
def compareBy (op : CompareOp) (left right : Value) : Except EvalFault Bool :=
  match op with
  | .eq => .ok (Value.equal left right)
  | .ne => .ok (!Value.equal left right)
  | .lt => Value.related .lt left right
  | .le => Value.related .le left right
  | .gt => Value.related .gt left right
  | .ge => Value.related .ge left right
  | .isIn => Value.isIn left right
  | .notIn => (Value.isIn left right).map (!·)
  | .same | .notSame => .error (.element op.elementName)

mutual

/-- The value of a term. -/
def Term.eval (context : Members) : Term → Except EvalFault Value
  | .constant c => .ok c.value
  | .name id => .ok (nameValue context id)
  | .attribute value member => do
    let v ← Term.eval context value
    .ok (lookUp v (.text member))
  | .subscript value (.constant key) => do
    let v ← Term.eval context value
    .ok (lookUp v key)
  | .subscript .. => .error (.element "Subscript")
  | .compare left rest => do
    let v ← Term.eval context left
    let b ← Term.evalCompared context v rest
    .ok (.bool b)
  | .junction .all parts => do
    let b ← Term.evalAll context parts
    .ok (.bool b)
  | .junction .any parts => do
    let b ← Term.evalAny context parts
    .ok (.bool b)
  | .unary .not operand => do
    let v ← Term.eval context operand
    .ok (.bool (!v.isTruthy))
  | .unary .minus operand => do
    let v ← Term.eval context operand
    v.negate
  | .unary op _ => .error (.element op.elementName)
  | .list items => do
    let vs ← Term.evalItems context items
    .ok (.list vs)
  | .tuple items => do
    let vs ← Term.evalItems context items
    .ok (.tuple vs)
  | .starred _ => .error (.element "Starred")
  | .foreign f => .error (.element f.elementName)

/-- A chain of comparisons holds if each does; the first that does not ends it. -/
def Term.evalCompared (context : Members) (left : Value) :
    List (CompareOp × Term) → Except EvalFault Bool
  | [] => .ok true
  | (op, part) :: parts => do
    let right ← Term.eval context part
    let b ← compareBy op left right
    if b then Term.evalCompared context right parts else .ok false

/-- Whether all parts are true; the first that is not ends the evaluation. -/
def Term.evalAll (context : Members) : List Term → Except EvalFault Bool
  | [] => .ok true
  | part :: parts => do
    let v ← Term.eval context part
    if v.isTruthy then Term.evalAll context parts else .ok false

/-- Whether some part is true; the first that is ends the evaluation. -/
def Term.evalAny (context : Members) : List Term → Except EvalFault Bool
  | [] => .ok false
  | part :: parts => do
    let v ← Term.eval context part
    if v.isTruthy then .ok true else Term.evalAny context parts

def Term.evalItems (context : Members) : List Term → Except EvalFault (List Value)
  | [] => .ok []
  | item :: items => do
    let v ← Term.eval context item
    let vs ← Term.evalItems context items
    .ok (v :: vs)

end

/-- The value of an expression. -/
def evaluate (expression : String) (context : Members) : Except Fault Value :=
  match compile expression with
  | .error r => .error (.refused r)
  | .ok term =>
    match term.eval context with
    | .ok v => .ok v
    | .error cause => .error (.failed expression cause)

/-- Whether a condition holds. -/
def holds (condition : String) (context : Members) : Except Fault Bool :=
  (evaluate condition context).map Value.isTruthy

end TriggerFlow.Expr
