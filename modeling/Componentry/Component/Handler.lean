import Componentry.Component.Definition
import Componentry.Component.Diagnostic
import Componentry.Script.Literal

/-!
# Handlers of the generated component

A change of state becomes an assignment to a member of `this`; a call of a prop becomes an event
that the component emits, since a child notifies its parent by events. A call that names no prop, or
one that is not defined, is left out and reported with its event and its index.
-/

namespace Componentry

def Node.thisMember (name : Value) : Node :=
  .memberExpression .thisExpression (.identifier name) (.bool false)

def emitMethod : String := "$emit"

namespace Statement

def assignment (target value : Value) : Result Node := do
  let right ←
    if isToggle value then pure (Node.unaryExpression (.str "!") (.thisMember target))
    else value.literal
  return .expressionStatement (.assignmentExpression (.str "=") (.thisMember target) right)

def emission (prop : Value) (args : List Value) : Result Node := do
  let args ← literalItems args
  return .expressionStatement
    (.callExpression (.thisMember (.str emitMethod)) (.stringLiteral prop :: args))

/-- The statement of the script for a statement of a handler, none if it is left out. -/
def compile (props : Entries PropDefinition) (location : String) :
    Statement → Recorded (Option Node)
  | stateChange target value => .lift do return some (← assignment target value)
  | propCall prop args => do
    if !prop.truthy then
      Recorded.record (.missingCall location)
      return none
    else if !prop.canBeKey then Recorded.lift (Result.fault .mistyped)
    else if (props.find? prop).isNone then
      Recorded.record (.unknownProp (← prop.inserted) location)
      return none
    else return some (← emission prop args)

end Statement

namespace Handlers

def place (event : String) (index : Nat) : String := event ++ "[" ++ Text.natural index ++ "]"

/-- Where a statement stands: its event and its index. -/
def location (event : Value) (index : Nat) : Result String := do
  return place (← event.inserted) index

/-- The body for the statements of an event, the first of which has the given index. -/
def compileBody (props : Entries PropDefinition) (event : Value) (index : Nat) :
    List Statement → Recorded (List Node)
  | [] => return []
  | s :: rest => do
    let compiled ← s.compile props (← location event index)
    let body ← compileBody props event (index + 1) rest
    return compiled.toList ++ body

def compile (props : Entries PropDefinition) : Handlers → Recorded (Entries (List Node))
  | [] => return []
  | (event, statements) :: rest => do
    let body ← compileBody props event 0 statements
    let bodies ← compile props rest
    return (event, body) :: bodies

end Handlers

end Componentry
