import TriggerFlow.Json.Printer
import TriggerFlow.Variables.Path

/-!
The variables of a run: one mapping from names to data, built from layers and extended by the outputs of
actions. Templates and conditions only read it.
-/

/-!
Texts with placeholders. A placeholder is a path in double braces; rendering puts the text of the datum
at that path in its place, once, from left to right. What is put in is not looked at again.
-/

namespace TriggerFlow.Template

/-- A piece of a template. -/
inductive Piece where
  | char (c : Char)
  | placeholder (path : List Char)
  deriving DecidableEq, Repr

/-- A placeholder in front: two opening braces, at least one character other than a closing brace, and
two closing braces. -/
def placeholder? : List Char → Option (List Char × List Char)
  | '\x7b' :: '\x7b' :: rest =>
    let path := rest.takeWhile (· ≠ '\x7d')
    match rest.dropWhile (· ≠ '\x7d') with
    | '\x7d' :: '\x7d' :: after => if path.isEmpty then none else some (path, after)
    | _ => none
  | _ => none

/-- Cuts a template into pieces, the leftmost placeholder first. `fuel` bounds the number of
characters. -/
def piecesWithin : Nat → List Char → List Piece
  | 0, _ => []
  | _ + 1, [] => []
  | fuel + 1, c :: rest =>
    match placeholder? (c :: rest) with
    | some (path, after) => .placeholder path :: piecesWithin fuel after
    | none => .char c :: piecesWithin fuel rest

/-- The pieces of a template. -/
def pieces (template : String) : List Piece := piecesWithin template.length template.toList

/-- Whether a text holds a placeholder. -/
def hasPlaceholder (text : String) : Bool :=
  (pieces text).any fun piece => match piece with
    | .placeholder _ => true
    | .char _ => false

/-- The text that a datum puts into a template: nothing for null, JSON for lists and objects. -/
def insertText : Json → String
  | .null => ""
  | .bool b => if b then "true" else "false"
  | .list items => (Json.list items).print
  | .object members => (Json.object members).print
  | datum => datum.display

/-- The datum that a placeholder names; blanks around the path do not count. -/
def lookUp (vars : Members) (path : List Char) : Except Path.Fault Json :=
  Path.resolve vars (String.ofList (Text.trim path))

/-- The text of a piece. -/
def Piece.render (vars : Members) : Piece → Except Path.Fault String
  | .char c => .ok c.toString
  | .placeholder path => do
    let datum ← lookUp vars path
    if datum.isWritable then .ok (insertText datum) else .error .tooLong

/-- Renders pieces in order; the first fault ends it. -/
def renderPieces (vars : Members) : List Piece → Except Path.Fault String
  | [] => .ok ""
  | piece :: rest => do
    let front ← piece.render vars
    let more ← renderPieces vars rest
    .ok (front ++ more)

/-- A text with its placeholders filled in. -/
def renderText (vars : Members) (template : String) : Except Path.Fault String :=
  renderPieces vars (pieces template)

mutual

/-- A datum with the placeholders of every text inside filled in; names of members stay. -/
def render (vars : Members) : Json → Except Path.Fault Json
  | .text s => (renderText vars s).map .text
  | .list items => (renderItems vars items).map .list
  | .object members => (renderMembers vars members).map .object
  | .null => .ok .null
  | .bool b => .ok (.bool b)
  | .int n => .ok (.int n)
  | .float x => .ok (.float x)

def renderItems (vars : Members) : List Json → Except Path.Fault (List Json)
  | [] => .ok []
  | item :: items => do
    let first ← render vars item
    let others ← renderItems vars items
    .ok (first :: others)

def renderMembers (vars : Members) : List (String × Json) → Except Path.Fault Members
  | [] => .ok []
  | (key, value) :: members => do
    let first ← render vars value
    let others ← renderMembers vars members
    .ok ((key, first) :: others)

end

end TriggerFlow.Template

namespace TriggerFlow

/-- Named data in the order in which the names came in. -/
structure Context where
  data : Members
  deriving DecidableEq, Repr, Inhabited

namespace Context

/-- A context from layers, a later layer overriding the earlier ones. -/
def seeded (layers : List Members) : Context := ⟨layers.foldl Ordered.overlay []⟩

/-- Adds an output. -/
def merge (context : Context) (output : Members) : Context := ⟨context.data.overlay output⟩

/-- The datum at a path. -/
def lookUp (context : Context) (path : String) : Except Path.Fault Json :=
  Path.resolve context.data path

/-- A datum with its placeholders filled in. -/
def render (context : Context) (datum : Json) : Except Path.Fault Json :=
  Template.render context.data datum

/-- The names with their data, in order. -/
def snapshot (context : Context) : Members := context.data

end Context

end TriggerFlow
