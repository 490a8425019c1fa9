import Componentry.Component.Definition
import Componentry.Json.Writer
import Componentry.Script.Literal

/-!
# Props of the generated component

A prop is declared by the bare type that its values are checked against, or by a map from
`required`, `type` and `default`, in this order, if there is more to say. A default that is shared
by reference is produced by a function, so that no two instances share it.
-/

namespace Componentry

namespace PropDefinition

/-- The failure of a definition whose type is not known. It shows the name and the definition, and
fails otherwise if one of them cannot be shown. -/
def unsupported (name : Value) (d : PropDefinition) : Result Value := do
  let shown ← name.inserted
  let written ← Json.writeLine (.map d.entries)
  .error (.generation (.unsupportedProp name (.map d.entries) shown written))

def embeddedDefault (kind : PropKind) (v : Value) : Result Value := do
  if kind.byReference then return .node (.arrowFunction [] (← v.literal)) else return v

/-- The declaration of a prop: the bare type, or a map. -/
def descriptor (name : Value) (d : PropDefinition) : Result Value :=
  match d.kind? with
  | none => unsupported name d
  | some kind => do
    let type := Value.node (.identifier (.str kind.runtimeType))
    let default ← match d.default with
      | none => pure []
      | some v => do
        let embedded ← embeddedDefault kind v
        pure [(Value.str "default", embedded)]
    let required := if d.required then [(Value.str "required", Value.bool true)] else []
    if d.required || d.default.isSome then
      return .map (required ++ (.str "type", type) :: default)
    else return type

def descriptors : Entries PropDefinition → Result (Entries Value)
  | [] => .ok []
  | (name, d) :: rest => do
    let v ← d.descriptor name
    return (name, v) :: (← descriptors rest)

end PropDefinition

end Componentry
