import Componentry.Naming.Identifier
import Componentry.Script.Quoted

/-!
# Keys of objects

A key is bare if it is an identifier name and a literal otherwise. The members of an object are
looked up by the name or the literal that their key holds.
-/

namespace Componentry

/-- The key for a name: an identifier if the name can be one, a literal otherwise. -/
def Node.key (name : String) : Node :=
  if Naming.isIdentifierName name then .identifier (.str name) else .stringLiteral (.str name)

/-- What a key holds: the name of an identifier, or the value of a literal or a property. -/
def Node.held? : Node → Option Value
  | .identifier name => some name
  | .stringLiteral value => some value
  | .numericLiteral value => some value
  | .booleanLiteral value => some value
  | .objectProperty _ value _ => some (.node value)
  | _ => none

def Node.memberKey : Node → Result Node
  | .objectProperty key _ _ => .ok key
  | .objectMethod key _ _ => .ok key
  | _ => Result.fault .memberless

namespace Members

/-- What the keys of the members hold, the empty text where a key holds nothing. -/
def keys : List Node → Result (List Value)
  | [] => .ok []
  | m :: ms => do
    let key ← m.memberKey
    return (key.held?).getD (.str "") :: (← keys ms)

/-- The first member whose key holds the given value; a key that holds nothing matches null. -/
def find? (wanted : Value) : List Node → Result (Option Node)
  | [] => .ok none
  | m :: ms => do
    let key ← m.memberKey
    if ((key.held?).getD .null).same wanted then return some m else find? wanted ms

end Members

namespace Script

/-- Whether a value is an identifier name; only texts can be asked. -/
def isIdentifierName (name : Value) : Result Bool := do
  return Naming.isIdentifierName (← name.text)

def keyName (quote : Char) (name : Value) : Result String := do
  let s ← name.text
  if Naming.isIdentifierName s then return s
  else return String.ofList (quoted quote s.toList)

end Script

end Componentry
