import Componentry.Component.Definition

/-!
# Reading descriptions

A description is a map whose members are all optional. What is missing, or counts as false where a
collection is expected, is empty; what has the wrong shape is a fault.
-/

namespace Componentry

def PropDefinition.ofValue (v : Value) : Result PropDefinition := do
  let es ← v.entries
  return {
    type := (es.get? "type").getD .null
    default := es.get? "defaultValue"
    required := ((es.get? "isRequired").getD (.bool false)).truthy }

/-- The statement that a map describes; everything but a call is a change of state. -/
def Statement.ofValue (v : Value) : Result Statement := do
  let es ← v.entries
  if ((es.get? "type").getD .null).isText "propCall" then
    let args ← ((es.get? "args").getD .null).itemsOrNone
    return .propCall ((es.get? "calls").getD .null) args
  else
    return .stateChange ((es.get? "modifies").getD (.str "")) ((es.get? "newState").getD .null)

def Entries.readEach {α : Type} (reader : Value → Result α) : Entries Value → Result (Entries α)
  | [] => .ok []
  | (k, v) :: es => do
    let a ← reader v
    return (k, a) :: (← readEach reader es)

def Statement.listOfValue (v : Value) : Result (List Statement) := do
  (← v.itemsOrNone).mapM Statement.ofValue

def Handlers.ofValue (v : Value) : Result Handlers := do
  Entries.readEach Statement.listOfValue (← v.orEmpty.entries)

def PropDefinition.allOfValue (v : Value) : Result (Entries PropDefinition) := do
  Entries.readEach PropDefinition.ofValue (← v.orEmpty.entries)

def Component.initialValue (v : Value) : Result Value := v.member "defaultValue"

def Component.ofValue (v : Value) : Result Component := do
  let es ← v.entries
  let props ← PropDefinition.allOfValue ((es.get? "propDefinitions").getD .null)
  let fields ← ((es.get? "stateDefinitions").getD .null).orEmpty.entries
  let state ← fields.readEach Component.initialValue
  return ⟨(es.get? "name").getD (.str ""), props, state⟩

def Document.ofValue (v : Value) : Result Document := do
  let component ← Component.ofValue v
  let dependencies ← (← v.member "dependencies").itemsOrNone
  let handlers ← Handlers.ofValue (← v.member "methods")
  return ⟨component, dependencies, handlers⟩

end Componentry
