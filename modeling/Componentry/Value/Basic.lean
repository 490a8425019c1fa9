import Componentry.Double.Basic

/-!
# Dynamic values and syntax nodes

Component descriptions, settings and template contexts are values whose shape nobody has checked,
so one type holds them all. A value may embed a piece of syntax, which is how ready-made expressions
travel inside plain data; and the leaves of a piece of syntax hold values, because a name or a
literal taken over from a description need not be a text.

Mappings keep the order of their entries. Maps of a well-formed value have no two equal keys, and
sets have at most one member.
-/

namespace Componentry

/-- The three kinds of node that stand for a whole family and have no written form. -/
inductive Family where
  | node
  | expression
  | statement
  deriving DecidableEq, Repr, Inhabited

mutual

inductive Value where
  | null
  | bool (b : Bool)
  | int (i : Int)
  | float (x : Double)
  | str (s : String)
  | list (items : List Value)
  | tuple (items : List Value)
  | set (items : List Value)
  | bytes (b : List UInt8)
  | ellipsis
  | map (entries : List (Value × Value))
  | node (n : Node)

/-- A node of the script that is printed. Positions of syntax hold nodes; names, literals, operators
and flags are values, taken over as they are. -/
inductive Node where
  | family (f : Family)
  | identifier (name : Value)
  | stringLiteral (value : Value)
  | numericLiteral (value : Value)
  | booleanLiteral (value : Value)
  | nullLiteral
  | thisExpression
  | arrayExpression (elements : List Node)
  | objectProperty (key value : Node) (shorthand : Value)
  | objectMethod (key : Node) (params : List Node) (body : Node)
  | objectExpression (properties : List Node)
  | arrowFunction (params : List Node) (body : Node)
  | memberExpression (object property : Node) (computed : Value)
  | unaryExpression (operator : Value) (argument : Node)
  | assignmentExpression (operator : Value) (left right : Node)
  | callExpression (callee : Node) (arguments : List Node)
  | expressionStatement (expression : Node)
  | returnStatement (argument : Option Node)
  | blockStatement (body : List Node)
  | exportDefault (declaration : Node)

end

instance : Inhabited Value := ⟨.null⟩
instance : Inhabited Node := ⟨.nullLiteral⟩

def Node.kindName : Node → String
  | family .node => "Node"
  | family .expression => "Expression"
  | family .statement => "Statement"
  | identifier _ => "Identifier"
  | stringLiteral _ => "StringLiteral"
  | numericLiteral _ => "NumericLiteral"
  | booleanLiteral _ => "BooleanLiteral"
  | nullLiteral => "NullLiteral"
  | thisExpression => "ThisExpression"
  | arrayExpression _ => "ArrayExpression"
  | objectProperty _ _ _ => "ObjectProperty"
  | objectMethod _ _ _ => "ObjectMethod"
  | objectExpression _ => "ObjectExpression"
  | arrowFunction _ _ => "ArrowFunctionExpression"
  | memberExpression _ _ _ => "MemberExpression"
  | unaryExpression _ _ => "UnaryExpression"
  | assignmentExpression _ _ _ => "AssignmentExpression"
  | callExpression _ _ => "CallExpression"
  | expressionStatement _ => "ExpressionStatement"
  | returnStatement _ => "ReturnStatement"
  | blockStatement _ => "BlockStatement"
  | exportDefault _ => "ExportDefaultDeclaration"

namespace Value

/-- Whether a value counts as true where a condition is asked for: all but null, false, zero and the
empty texts and collections. -/
def truthy : Value → Bool
  | null => false
  | bool b => b
  | int i => i != 0
  | float x => x.nonzero
  | str s => !s.isEmpty
  | list items => !items.isEmpty
  | tuple items => !items.isEmpty
  | set items => !items.isEmpty
  | bytes b => !b.isEmpty
  | ellipsis => true
  | map entries => !entries.isEmpty
  | node _ => true

def isText (s : String) : Value → Bool
  | str t => t == s
  | _ => false

def isSomeText : Value → Bool
  | str _ => true
  | _ => false

def kindName : Value → String
  | null => "NoneType"
  | bool _ => "bool"
  | int _ => "int"
  | float _ => "float"
  | str _ => "str"
  | list _ => "list"
  | tuple _ => "tuple"
  | set _ => "set"
  | bytes _ => "bytes"
  | ellipsis => "ellipsis"
  | map _ => "dict"
  | node n => n.kindName

/-- The name of the kind of a value with the place where nodes are defined in front of it. -/
def fullKindName : Value → String
  | node n => "uidl_vue.codegen.core.nodes." ++ n.kindName
  | v => v.kindName

end Value

end Componentry
