import Componentry.Component.Handler
import Componentry.Component.Props

/-!
# The options of the generated component

A component is declared by one object, whose members are its name and then, each only if there is
something to say, its props, the components that it uses, its data and its methods.
-/

namespace Componentry

namespace Component

def option (name : String) (value : Node) : Node :=
  .objectProperty (.identifier (.str name)) value (.bool false)

/-- The failure of the first name that cannot refer to a component, if there is one. -/
def checkDependencies : List Value → Result Unit
  | [] => .ok ()
  | name :: rest => do
    let text ← name.text
    if Naming.isReference text then checkDependencies rest
    else .error (.generation (.badDependency text))

/-- The entry by which a component is used under its own name. -/
def binding (name : Value) : Node :=
  .objectProperty (.identifier name) (.identifier name) (.bool true)

def usedComponents (names : List Value) : Result Node := do
  checkDependencies names
  return .objectExpression (names.map binding)

def dataMethod (data : Value) : Result Node := do
  let state ← data.objectLiteral
  return .objectMethod (.identifier (.str "data")) []
    (.blockStatement [.returnStatement (some state)])

def method (event : Value) (body : List Node) : Result Node := do
  return .objectMethod (.key (← event.text)) [] (.blockStatement body)

def methods : Entries (List Node) → Result (List Node)
  | [] => .ok []
  | (event, body) :: rest => do
    let m ← method event body
    return m :: (← methods rest)

def optional (present : Bool) (member : Recorded Node) : Recorded (List Node) :=
  if present then do return [← member] else return []

def members (c : Component) (dependencies : List Value) (data : Value) (handlers : Handlers) :
    Recorded (List Node) := do
  let props ← optional (!c.props.isEmpty) (.lift do
    return option "props" (.objectExpression
      (← literalMembers (← PropDefinition.descriptors c.props))))
  let components ← optional (!dependencies.isEmpty) (.lift do
    return option "components" (← usedComponents dependencies))
  let data ← optional data.truthy (.lift (dataMethod data))
  let methods ← optional (!handlers.isEmpty) do
    let bodies ← handlers.compile c.props
    return option "methods" (.objectExpression (← Component.methods bodies))
  return option "name" (.stringLiteral c.name) :: (props ++ components ++ data ++ methods)

def declaration (c : Component) (dependencies : List Value) (data : Value) (handlers : Handlers) :
    Recorded Node := do
  return .exportDefault (.objectExpression (← c.members dependencies data handlers))

def initialState (c : Component) : Value := .map c.state

end Component

namespace Document

def declaration (d : Document) : Recorded Node :=
  d.component.declaration d.dependencies d.component.initialState d.handlers

end Document

end Componentry
