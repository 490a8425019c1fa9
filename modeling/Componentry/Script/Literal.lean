import Componentry.Script.Key

/-!
# Literals for values

Null, truth values, numbers, texts, lists, tuples and maps have literals; a map becomes an object
with its keys shown as text, in order. A node stands for itself, which is how ready-made expressions
are embedded in plain data. Any other value has no literal, wherever it occurs, and the failure
shows it.
-/

namespace Componentry

mutual

def Value.literal : Value → Result Node
  | .node n => .ok n
  | .bool b => .ok (.booleanLiteral (.bool b))
  | .int i => .ok (.numericLiteral (.int i))
  | .float x => .ok (.numericLiteral (.float x))
  | .str s => .ok (.stringLiteral (.str s))
  | .null => .ok .nullLiteral
  | .map entries => do return .objectExpression (← literalMembers entries)
  | .list items => do return .arrayExpression (← literalItems items)
  | .tuple items => do return .arrayExpression (← literalItems items)
  | v => do
    let displayed ← Result.ofText v.display
    .error (.generation (.noLiteral v displayed))

def literalItems : List Value → Result (List Node)
  | [] => .ok []
  | x :: xs => do
    let n ← x.literal
    return n :: (← literalItems xs)

def literalMembers : List (Value × Value) → Result (List Node)
  | [] => .ok []
  | (k, v) :: es => do
    let name ← k.inserted
    let n ← v.literal
    return .objectProperty (.key name) n (.bool false) :: (← literalMembers es)

end

def Value.objectLiteral (v : Value) : Result Node := do
  return .objectExpression (← literalMembers (← v.entries))

end Componentry
