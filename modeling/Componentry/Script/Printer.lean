import Componentry.Script.Key
import Componentry.Text.Letter

/-!
# Printing syntax

`printNode` writes a node at a level of indentation. Objects and blocks are broken over lines, and
so is an array that holds an object or an array; everything else stays on its line. A node that
stands for a whole family, or a member of an object where an expression has to stand, has no written
form.

An identifier prints as the name that it holds, whatever that is, so printing gives a value; where
it becomes part of a longer text it is inserted as text.
-/

namespace Componentry.Script

/-- How syntax is laid out. A margin is asked for only where a line is broken. -/
structure Style where
  quote : Char
  terminator : String
  margin : (level : Nat) → Result String

/-- A number: doubles below `10 ^ 21` that are whole are written as whole numbers. -/
def numeral : Value → Result String
  | .float .nan => .ok "NaN"
  | .float (.infinite negative) => .ok (if negative then "-Infinity" else "Infinity")
  | .float x =>
    match x.integral? with
    | some i => .ok (if i.natAbs < Nat.pow 10 21 then Text.decimal i else x.written .plain)
    | none => .ok (x.written .plain)
  | v => v.inserted

def isWordOperator : Value → Result Bool
  | .str s => .ok (Text.isWord s)
  | .bytes b => .ok (!b.isEmpty && b.all fun x => (Char.ofNat x.toNat).isAlpha)
  | _ => Result.fault .memberless

def texts (values : List Value) : Result (List String) := values.mapM Value.text

def broken (opening closing separator inner outer : String) (items : List String) : String :=
  opening ++ "\n" ++ Text.join (separator ++ "\n") (items.map (inner ++ ·)) ++ "\n" ++ outer ++
    closing

def breaksArray : Node → Bool
  | .objectExpression _ => true
  | .arrayExpression _ => true
  | _ => false

def wrapsOperand : Node → Bool
  | .assignmentExpression _ _ _ => true
  | .arrowFunction _ _ => true
  | .unaryExpression _ _ => true
  | _ => false

def wrapsCallee : Node → Bool
  | .arrowFunction _ _ => true
  | _ => false

def wrapsBody : Node → Bool
  | .objectExpression _ => true
  | _ => false

def wrapped (wrap : Bool) (s : String) : String := if wrap then "(" ++ s ++ ")" else s

/-- What was printed, as part of a longer text. -/
def inserted (printed : Result Value) : Result String := do (← printed).inserted

/-- A key as text: an identifier or a literal by what it holds, anything else in brackets. -/
def keyText (style : Style) (key : Node) (printed : Result Value) : Result String :=
  match key with
  | .identifier .null => do return "[" ++ (← inserted printed) ++ "]"
  | .identifier name => keyName style.quote name
  | .stringLiteral .null => do return "[" ++ (← inserted printed) ++ "]"
  | .stringLiteral value => keyName style.quote value
  | _ => do return "[" ++ (← inserted printed) ++ "]"

/-- A property behind its object: in brackets if it is computed or cannot follow a dot. The name is
looked at before the object is inserted. -/
def accessText (style : Style) (object : Value) (property : Node) (computed : Bool)
    (printed : Result Value) : Result String :=
  if computed then do return (← object.inserted) ++ "[" ++ (← inserted printed) ++ "]"
  else
    match property with
    | .identifier name => do
      if ← isIdentifierName name then return (← object.inserted) ++ "." ++ (← inserted printed)
      else return (← object.inserted) ++ "[" ++ (← quotedValue style.quote name) ++ "]"
    | _ => do return (← object.inserted) ++ "." ++ (← inserted printed)

/-- A member with its key; a shorthand whose value reads as its key is written once. -/
def propertyText (key : String) (shorthand : Bool) (value : Value) : Result String :=
  if shorthand && value.isText key then .ok key else do return key ++ ": " ++ (← value.inserted)

mutual

def printNode (style : Style) (level : Nat) : Node → Result Value
  | .identifier name => .ok name
  | .stringLiteral value => do return .str (← quotedValue style.quote value)
  | .numericLiteral value => do return .str (← numeral value)
  | .booleanLiteral value => .ok (.str (if value.truthy then "true" else "false"))
  | .nullLiteral => .ok (.str "null")
  | .thisExpression => .ok (.str "this")
  | .arrayExpression [] => .ok (.str "[]")
  | .arrayExpression elements => do
    if elements.any breaksArray then
      let inner ← style.margin (level + 1)
      let items ← printItems style (level + 1) elements
      let outer ← style.margin level
      return .str (broken "[" "]" "," inner outer items)
    else
      let items ← texts (← printNodes style level elements)
      return .str ("[" ++ Text.join ", " items ++ "]")
  | .objectExpression [] => .ok (.str "\x7b\x7d")
  | .objectExpression members => do
    let inner ← style.margin (level + 1)
    let items ← printMembers style (level + 1) members
    let outer ← style.margin level
    return .str (broken "\x7b" "\x7d" "," inner outer items)
  | .arrowFunction params body => do
    let params ← texts (← printNodes style level params)
    let text ← inserted (printNode style level body)
    return .str ("(" ++ Text.join ", " params ++ ") => " ++ wrapped (wrapsBody body) text)
  | .memberExpression object property computed => do
    let object ← printNode style level object
    let text ← accessText style object property computed.truthy (printNode style level property)
    return .str text
  | .unaryExpression operator argument => do
    let argumentValue ← printNode style level argument
    let gap := if ← isWordOperator operator then " " else ""
    let operator ← operator.inserted
    let text ← argumentValue.inserted
    return .str (operator ++ gap ++ wrapped (wrapsOperand argument) text)
  | .assignmentExpression operator left right => do
    let left ← printNode style level left
    let right ← printNode style level right
    return .str ((← left.inserted) ++ " " ++ (← operator.inserted) ++ " " ++ (← right.inserted))
  | .callExpression callee arguments => do
    let value ← printNode style level callee
    let arguments ← texts (← printNodes style level arguments)
    let text ← value.inserted
    return .str (wrapped (wrapsCallee callee) text ++ "(" ++ Text.join ", " arguments ++ ")")
  | .expressionStatement expression => do
    let text ← (← printNode style level expression).text
    return .str (text ++ style.terminator)
  | .returnStatement none => .ok (.str ("return" ++ style.terminator))
  | .returnStatement (some argument) => do
    let text ← inserted (printNode style level argument)
    return .str ("return " ++ text ++ style.terminator)
  | .blockStatement [] => .ok (.str "\x7b\x7d")
  | .blockStatement statements => do
    let inner ← style.margin (level + 1)
    let items ← printItems style (level + 1) statements
    let outer ← style.margin level
    return .str (broken "\x7b" "\x7d" "" inner outer items)
  | .exportDefault declaration => do
    let text ← inserted (printNode style level declaration)
    return .str ("export default " ++ text ++ style.terminator)
  | n => .error (.generation (.unprintable n.kindName))

def printNodes (style : Style) (level : Nat) : List Node → Result (List Value)
  | [] => .ok []
  | n :: ns => do
    let value ← printNode style level n
    return value :: (← printNodes style level ns)

/-- The texts of nodes that stand on lines of their own, each inserted as soon as it is printed. -/
def printItems (style : Style) (level : Nat) : List Node → Result (List String)
  | [] => .ok []
  | n :: ns => do
    let text ← inserted (printNode style level n)
    return text :: (← printItems style level ns)

def printMember (style : Style) (level : Nat) : Node → Result String
  | .objectProperty key value shorthand => do
    let key ← keyText style key (printNode style level key)
    propertyText key shorthand.truthy (← printNode style level value)
  | .objectMethod key params body => do
    let key ← keyText style key (printNode style level key)
    let params ← texts (← printNodes style level params)
    return key ++ "(" ++ Text.join ", " params ++ ") " ++ (← printBody style level body)
  | _ => Result.fault .memberless

def printMembers (style : Style) (level : Nat) : List Node → Result (List String)
  | [] => .ok []
  | m :: ms => do
    let text ← printMember style level m
    return text :: (← printMembers style level ms)

/-- The body of a method. Another node that has a body is taken for a block until its statements are
asked for. -/
def printBody (style : Style) (level : Nat) : Node → Result String
  | .blockStatement [] => .ok "\x7b\x7d"
  | .blockStatement statements => do
    let inner ← style.margin (level + 1)
    let items ← printItems style (level + 1) statements
    let outer ← style.margin level
    return broken "\x7b" "\x7d" "" inner outer items
  | .arrowFunction _ _ => do
    let _ ← style.margin (level + 1)
    Result.fault .mistyped
  | .objectMethod _ _ _ => do
    let _ ← style.margin (level + 1)
    Result.fault .mistyped
  | _ => Result.fault .memberless

end

/-- A node printed without indentation. -/
def print (style : Style) (n : Node) : Result Value := printNode style 0 n

end Componentry.Script
