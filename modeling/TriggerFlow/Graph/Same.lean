import TriggerFlow.Expr.Value
import TriggerFlow.Graph.Basic

/-!
Sameness of graphs by value: numbers count by what they are, the order of settings does not matter, and a
NaN is never the same as anything.
-/

namespace TriggerFlow

/-- Two data of equal value. -/
def Json.same (a b : Json) : Bool := (Expr.Value.ofJson a).equal (Expr.Value.ofJson b)

namespace Graph

/-- Lists that are the same item by item. -/
def sameItems {α : Type} (same : α → α → Bool) : List α → List α → Bool
  | [], [] => true
  | a :: as, b :: bs => same a b && sameItems same as bs
  | _, _ => false

/-- Values that are the same, or absent on both sides. -/
def sameOption {α : Type} (same : α → α → Bool) : Option α → Option α → Bool
  | none, none => true
  | some a, some b => same a b
  | _, _ => false

def sameNumber (x y : Binary64) : Bool := x.compare? y = some .eq

end Graph

def Task.same : Task → Task → Bool
  | .trigger s, .trigger t => s.kind = t.kind && (Json.object s.config).same (.object t.config)
  | .action a, .action b =>
    a.kind = b.kind && (Json.object a.config).same (.object b.config) &&
      a.continueOnError = b.continueOnError && Graph.sameOption Graph.sameNumber a.timeout b.timeout
  | .condition e, .condition f => e = f
  | .finish, .finish => true
  | _, _ => false

def Node.same (a b : Node) : Bool :=
  a.id = b.id && a.label = b.label && a.task.same b.task &&
    Graph.sameOption (fun p q => Graph.sameNumber p.x q.x && Graph.sameNumber p.y q.y)
      a.position b.position

/-- Two graphs of equal value. -/
def Graph.same (g h : Graph) : Bool :=
  Graph.sameItems Node.same g.nodes h.nodes && g.edges = h.edges && g.version = h.version

end TriggerFlow
