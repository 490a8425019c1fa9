import Componentry.Double.Written
import Componentry.Text.Lines
import Componentry.Text.Quoted
import Componentry.Value.Basic

/-!
# Values as messages show them

`Value.display` writes a value with its structure: texts in quotes, collections in their brackets,
nodes as their kind with named parts. `Value.shown` is the text that a value contributes where it is
inserted into other text: a text stands for itself, anything else is displayed. There is no text for
a value that holds a number of too many digits.
-/

namespace Componentry

/-- Texts with a comma and a blank between them, between an opening and a closing one. -/
def bracketed (opening closing : String) (items : List String) : String :=
  opening ++ Text.join ", " items ++ closing

/-- A tuple of displayed items; a comma tells one item from an item in brackets. -/
def displayTuple (items : List String) : String :=
  match items with
  | [item] => "(" ++ item ++ ",)"
  | _ => bracketed "(" ")" items

def displayParts (n : Node) (parts : List (String × Option String)) : Option String := do
  let texts ← parts.mapM fun part => part.2.map (part.1 ++ "=" ++ ·)
  return n.kindName ++ bracketed "(" ")" texts

mutual

def Value.display : Value → Option String
  | .null => some "None"
  | .bool true => some "True"
  | .bool false => some "False"
  | .int i => Text.integer i
  | .float x => some (x.written .plain)
  | .str s => some (Text.quoted s)
  | .list items => (displayItems items).map (bracketed "[" "]")
  | .tuple items => (displayItems items).map displayTuple
  | .set [] => some "set()"
  | .set items => (displayItems items).map (bracketed "\x7b" "\x7d")
  | .bytes b => some (Text.quotedBytes b)
  | .ellipsis => some "Ellipsis"
  | .map entries => (displayEntries entries).map (bracketed "\x7b" "\x7d")
  | .node n => n.display

def displayItems : List Value → Option (List String)
  | [] => some []
  | x :: xs => do return (← x.display) :: (← displayItems xs)

def displayEntries : List (Value × Value) → Option (List String)
  | [] => some []
  | (k, v) :: es => do return ((← k.display) ++ ": " ++ (← v.display)) :: (← displayEntries es)

def Node.display : Node → Option String
  | .family f => some ("<" ++ (Node.family f).kindName ++ ">")
  | .identifier a => displayParts (.identifier a) [("name", a.display)]
  | .stringLiteral a => displayParts (.stringLiteral a) [("value", a.display)]
  | .numericLiteral a => displayParts (.numericLiteral a) [("value", a.display)]
  | .booleanLiteral a => displayParts (.booleanLiteral a) [("value", a.display)]
  | .nullLiteral => displayParts .nullLiteral []
  | .thisExpression => displayParts .thisExpression []
  | .arrayExpression es =>
    displayParts (.arrayExpression es) [("elements", (displayNodes es).map displayTuple)]
  | .objectProperty k v s =>
    displayParts (.objectProperty k v s)
      [("key", k.display), ("value", v.display), ("shorthand", s.display)]
  | .objectMethod k p b =>
    displayParts (.objectMethod k p b)
      [("key", k.display), ("params", (displayNodes p).map displayTuple), ("body", b.display)]
  | .objectExpression ps =>
    displayParts (.objectExpression ps) [("properties", (displayNodes ps).map displayTuple)]
  | .arrowFunction p b =>
    displayParts (.arrowFunction p b)
      [("params", (displayNodes p).map displayTuple), ("body", b.display)]
  | .memberExpression o p c =>
    displayParts (.memberExpression o p c)
      [("object", o.display), ("property", p.display), ("computed", c.display)]
  | .unaryExpression o a =>
    displayParts (.unaryExpression o a) [("operator", o.display), ("argument", a.display)]
  | .assignmentExpression o l r =>
    displayParts (.assignmentExpression o l r)
      [("operator", o.display), ("left", l.display), ("right", r.display)]
  | .callExpression c a =>
    displayParts (.callExpression c a)
      [("callee", c.display), ("arguments", (displayNodes a).map displayTuple)]
  | .expressionStatement e => displayParts (.expressionStatement e) [("expression", e.display)]
  | .returnStatement none => displayParts (.returnStatement none) [("argument", some "None")]
  | .returnStatement (some a) =>
    displayParts (.returnStatement (some a)) [("argument", a.display)]
  | .blockStatement b =>
    displayParts (.blockStatement b) [("body", (displayNodes b).map displayTuple)]
  | .exportDefault d => displayParts (.exportDefault d) [("declaration", d.display)]

def displayNodes : List Node → Option (List String)
  | [] => some []
  | n :: ns => do return (← n.display) :: (← displayNodes ns)

end

def Value.shown : Value → Option String
  | .str s => some s
  | v => v.display

end Componentry
