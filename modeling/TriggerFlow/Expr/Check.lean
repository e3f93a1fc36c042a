import TriggerFlow.Expr.Grammar
import TriggerFlow.Expr.Spelling
import TriggerFlow.Text.Quoted
import TriggerFlow.Text.CharName

/-!
Which expressions belong to the language of conditions. An expression of at most 500 characters is
spelled in words, parsed and checked; the checked ones hold paths, literals, comparisons and boolean
operators only.
-/

namespace TriggerFlow.Expr

/-- Why an expression is refused before it is evaluated. -/
inductive Refusal where
  | empty
  | tooLong (length : Nat)
  /-- The zero character cannot be part of an expression's text. -/
  | zeroCharacter
  | malformed (expression : String)
  | key
  | comparison (op : CompareOp)
  | unary (op : UnaryOp)
  | element (name : String)
  deriving DecidableEq, Repr

/-- The greatest length of an expression in characters. -/
def maxLength : Nat := 500

/-- The text of a refusal. -/
def Refusal.message : Refusal → String
  | .empty => "Expression cannot be empty"
  | .tooLong length =>
    "Expression too long (" ++ toString length ++ " chars, max " ++ toString maxLength ++ ")"
  | .zeroCharacter => "source code string cannot contain null bytes"
  | .malformed expression => "Invalid expression syntax: " ++ Text.quoted expression
  | .key => "Subscripts must be literal keys or indexes"
  | .comparison op => "Unsupported comparison: " ++ op.elementName
  | .unary op => "Unsupported unary op: " ++ op.elementName
  | .element name => "Unsupported expression element: " ++ name

mutual

/-- The first construct of a term that is outside the language, the outer before the inner and the left
before the right. -/
def refusal? : Term → Option Refusal
  | .constant _ => none
  | .name _ => none
  | .attribute value _ => refusal? value
  | .subscript value (.constant _) => refusal? value
  | .subscript .. => some .key
  | .compare left rest =>
    match rest.find? fun part => !part.1.isSupported with
    | some part => some (.comparison part.1)
    | none => (refusal? left).or (refusalOfCompared? rest)
  | .junction _ parts => refusalOfAll? parts
  | .unary .not operand => refusal? operand
  | .unary .minus (.constant _) => none
  | .unary op _ => some (.unary op)
  | .list items => refusalOfAll? items
  | .tuple items => refusalOfAll? items
  | .starred _ => some (.element "Starred")
  | .foreign f => some (.element f.elementName)

def refusalOfAll? : List Term → Option Refusal
  | [] => none
  | part :: parts => (refusal? part).or (refusalOfAll? parts)

def refusalOfCompared? : List (CompareOp × Term) → Option Refusal
  | [] => none
  | (_, part) :: parts => (refusal? part).or (refusalOfCompared? parts)

end

/-- Reads an expression of the language. -/
def compile (expression : String) : Except Refusal Term :=
  if Text.isBlankText expression then .error .empty
  else if maxLength < expression.length then .error (.tooLong expression.length)
  else
    let source := Spelling.inWords expression
    if source.contains (Char.ofNat 0) then .error .zeroCharacter
    else match parse? Text.charNamed? source with
      | none => .error (.malformed expression)
      | some term =>
        match refusal? term with
        | some refusal => .error refusal
        | none => .ok term

end TriggerFlow.Expr
