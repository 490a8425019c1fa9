import Componentry.Component.Options

/-!
# The assembler

An assembler declares one component after the other and has one log of diagnostics for all of them.
A diagnostic is in the log as soon as its statement is met, so a component whose declaration fails
leaves there what was reported before the failure.
-/

namespace Componentry

structure Assembler where
  diagnostics : List Diagnostic
  deriving Inhabited

abbrev Assembly := ExceptT Failure (StateM Assembler)

namespace Assembler

/-- What an assembler is asked to declare. -/
structure Call where
  component : Component
  dependencies : List Value
  data : Value
  handlers : Handlers
  deriving Inhabited

def fresh : Assembler := ⟨[]⟩

def warn (d : Diagnostic) : Assembly Unit := modify fun a => ⟨a.diagnostics ++ [d]⟩

def statement (props : Entries PropDefinition) (location : String) :
    Statement → Assembly (Option Node)
  | .stateChange target value => do return some (← Statement.assignment target value)
  | .propCall prop args => do
    if !prop.truthy then
      warn (.missingCall location)
      return none
    else if !prop.canBeKey then throw (.fault .mistyped)
    else if (props.find? prop).isNone then
      warn (.unknownProp (← prop.inserted) location)
      return none
    else return some (← Statement.emission prop args)

def body (props : Entries PropDefinition) (event : Value) (index : Nat) :
    List Statement → Assembly (List Node)
  | [] => return []
  | s :: rest => do
    let compiled ← statement props (← Handlers.location event index) s
    let others ← body props event (index + 1) rest
    return compiled.toList ++ others

def bodies (props : Entries PropDefinition) : Handlers → Assembly (Entries (List Node))
  | [] => return []
  | (event, statements) :: rest => do
    let first ← body props event 0 statements
    let others ← bodies props rest
    return (event, first) :: others

def optional (present : Bool) (member : Assembly Node) : Assembly (List Node) :=
  if present then do return [← member] else return []

def members (c : Call) : Assembly (List Node) := do
  let props ← optional (!c.component.props.isEmpty) do
    let descriptors ← PropDefinition.descriptors c.component.props
    return Component.option "props" (.objectExpression (← literalMembers descriptors))
  let components ← optional (!c.dependencies.isEmpty) do
    return Component.option "components" (← Component.usedComponents c.dependencies)
  let data ← optional c.data.truthy (Component.dataMethod c.data)
  let methods ← optional (!c.handlers.isEmpty) do
    let compiled ← bodies c.component.props c.handlers
    return Component.option "methods" (.objectExpression (← Component.methods compiled))
  return Component.option "name" (.stringLiteral c.component.name) ::
    (props ++ components ++ data ++ methods)

def assemble (c : Call) : Assembly Node := do
  return .exportDefault (.objectExpression (← members c))

def call (a : Assembler) (c : Call) : Result Node × Assembler := (assemble c).run.run a

/-- One call after the other; a call that fails does not keep the others from being made. -/
def calls (a : Assembler) : List Call → List (Result Node) × Assembler
  | [] => ([], a)
  | c :: rest =>
    let (result, a) := a.call c
    let (results, a) := a.calls rest
    (result :: results, a)

end Assembler

end Componentry
