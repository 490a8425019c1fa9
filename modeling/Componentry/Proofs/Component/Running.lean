import Componentry.Component.Handler
import Componentry.Proofs.Script.Grammar

/-!
# Running handlers

A component that runs has fields, which hold data, and emits events with data as their arguments.
Its handlers have a meaning of their own, statement by statement, and the bodies they are compiled
to have one as pieces of the script. Both are given here as functions on runs, the former total and
the latter defined on the pieces of the script that bodies are made of.
-/

namespace Componentry

/-- What a field or an argument holds while a component runs. The members of an object keep their
order. -/
inductive Datum where
  | undefined
  | null
  | bool (b : Bool)
  | int (i : Int)
  | float (x : Double)
  | text (s : String)
  | array (items : List Datum)
  | object (members : List (String × Datum))
  deriving Inhabited

/-- Whether the script counts a datum as true: all but nothing, false, zero, the number that is none
and the empty text. -/
def Datum.truthy : Datum → Bool
  | undefined => false
  | null => false
  | bool b => b
  | int i => i != 0
  | float .nan => false
  | float x => x.nonzero
  | text s => !s.isEmpty
  | array _ => true
  | object _ => true

section

variable (named : String → String) (objectOf : List (String × Datum) → Datum)

mutual

/-- The datum that a plain value stands for; `named` gives the name of the member for a key, and
`objectOf` the object that members under their names make. -/
def Value.datum : Value → Datum
  | .null => .null
  | .bool b => .bool b
  | .int i => .int i
  | .float x => .float x
  | .str s => .text s
  | .list items => .array (dataOfItems items)
  | .map entries => objectOf (dataOfEntries entries)
  | _ => .undefined

def dataOfItems : List Value → List Datum
  | [] => []
  | v :: vs => v.datum :: dataOfItems vs

def dataOfEntries : List (Value × Value) → List (String × Datum)
  | [] => []
  | (.str k, v) :: es => (named k, v.datum) :: dataOfEntries es
  | _ :: es => dataOfEntries es

end

end

/-- The fields of a component while it runs, and the events that it has emitted, each with its
arguments. -/
structure Run where
  fields : String → Datum
  emitted : List (String × List Datum)

namespace Run

def store (r : Run) (field : String) (d : Datum) : Run :=
  { r with fields := fun k => if k = field then d else r.fields k }

def emit (r : Run) (event : String) (args : List Datum) : Run :=
  { r with emitted := r.emitted ++ [(event, args)] }

end Run

namespace Statement

/-- What a statement of a handler does. A call of what is no prop does nothing. Objects keep all
their members in order. -/
def perform (props : Entries PropDefinition) (r : Run) : Statement → Run
  | stateChange (.str field) value =>
    r.store field
      (if isToggle value then .bool (!(r.fields field).truthy) else value.datum id .object)
  | propCall (.str prop) args =>
    if prop ≠ "" && props.keys.any (·.isText prop) then r.emit prop (dataOfItems id .object args)
    else r
  | _ => r

def performAll (props : Entries PropDefinition) (statements : List Statement) (r : Run) : Run :=
  statements.foldl (perform props) r

end Statement

namespace Script

def field? : Node → Option String
  | .memberExpression .thisExpression (.identifier (.str k)) (.bool false) => some k
  | _ => none

section

variable (objectOf : List (String × Datum) → Datum) (fields : String → Datum)

mutual

/-- What an expression comes to while the fields hold their data; `objectOf` gives the object that
members under their names make. -/
def evaluate : Node → Option Datum
  | .nullLiteral => some .null
  | .booleanLiteral (.bool b) => some (.bool b)
  | .numericLiteral (.int i) => some (.int i)
  | .numericLiteral (.float x) => some (.float x)
  | .stringLiteral (.str s) => some (.text s)
  | .arrayExpression es => (evaluateAll es).map .array
  | .objectExpression ms => (evaluateMembers ms).map objectOf
  | .unaryExpression (.str "!") a => (evaluate a).map fun d => .bool (!d.truthy)
  | .memberExpression .thisExpression (.identifier (.str k)) (.bool false) => some (fields k)
  | _ => none

def evaluateAll : List Node → Option (List Datum)
  | [] => some []
  | e :: es => do
    let d ← evaluate e
    return d :: (← evaluateAll es)

def evaluateMembers : List Node → Option (List (String × Datum))
  | [] => some []
  | .objectProperty k v (.bool false) :: ms => do
    let name ← memberName? k
    let d ← evaluate v
    return (name, d) :: (← evaluateMembers ms)
  | _ => none

end

end

/-- What a statement does: it assigns to a field, or emits an event. Objects keep all their members
in order. -/
def run (r : Run) : Node → Option Run
  | .expressionStatement (.assignmentExpression (.str "=") target e) => do
    let field ← field? target
    return r.store field (← evaluate .object r.fields e)
  | .expressionStatement (.callExpression callee args) => do
    if (← field? callee) = emitMethod then
      match ← evaluateAll .object r.fields args with
      | .text event :: data => return r.emit event data
      | _ => none
    else none
  | _ => none

def runAll (body : List Node) (r : Run) : Option Run := body.foldlM run r

end Script

end Componentry
