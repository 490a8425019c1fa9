import Componentry.Value.Access

/-!
# Descriptions of components

A component has a name, props that its parent passes in, local state, and handlers that run
statements when an event happens. All of it is taken over from a description without more checks
than reading it needs: names may be any value, and the type of a prop is kept as it was given.
-/

namespace Componentry

inductive PropKind where
  | string
  | number
  | boolean
  | array
  | object
  | function
  deriving DecidableEq, Repr, Inhabited

namespace PropKind

def tag : PropKind → String
  | string => "string"
  | number => "number"
  | boolean => "boolean"
  | array => "array"
  | object => "object"
  | function => "func"

def all : List PropKind := [string, number, boolean, array, object, function]

def ofTag? (type : Value) : Option PropKind := all.find? fun k => type.isText k.tag

def runtimeType : PropKind → String
  | string => "String"
  | number => "Number"
  | boolean => "Boolean"
  | array => "Array"
  | object => "Object"
  | function => "Function"

/-- Whether values of a kind are shared by reference, so that each instance needs a fresh one. -/
def byReference : PropKind → Bool
  | array => true
  | object => true
  | _ => false

end PropKind

structure PropDefinition where
  type : Value
  default : Option Value
  required : Bool
  deriving Inhabited

namespace PropDefinition

def kind? (d : PropDefinition) : Option PropKind := PropKind.ofTag? d.type

def entries (d : PropDefinition) : Entries Value :=
  let default := match d.default with
    | none => []
    | some v => [(Value.str "defaultValue", v)]
  let required := if d.required then [(Value.str "isRequired", Value.bool true)] else []
  (.str "type", d.type) :: (default ++ required)

end PropDefinition

/-- A statement of a handler: a new value for a field of the state, or a call of something that the
parent passed in. -/
inductive Statement where
  | stateChange (target value : Value)
  | propCall (prop : Value) (args : List Value)
  deriving Inhabited

/-- The value that asks for the opposite of what a field holds. -/
def toggleMark : String := "$toggle"

namespace Statement

def tag : Statement → String
  | stateChange _ _ => "stateChange"
  | propCall _ _ => "propCall"

def isToggle (value : Value) : Bool := value.isText toggleMark

end Statement

abbrev Handlers := Entries (List Statement)

/-- A component: its name, its props, and its state with the initial values. -/
structure Component where
  name : Value
  props : Entries PropDefinition
  state : Entries Value
  deriving Inhabited

structure Document where
  component : Component
  dependencies : List Value
  handlers : Handlers
  deriving Inhabited

end Componentry
