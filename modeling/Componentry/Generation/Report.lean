import Componentry.Log.Record
import Componentry.Value.Access

/-!
# Reports of generation

A report holds the generated code, the warnings that were recorded on the way and some facts about
the component. Errors of generation are reported as well; faults and other failures are not.
-/

namespace Componentry

structure Metadata where
  component : Value
  extension : String
  props : Nat
  state : Nat
  methods : Nat
  dependencies : Nat
  deriving Inhabited

def languageName : String := "vue"

def Metadata.entries (m : Metadata) : List (String × Value) := [
  ("component", m.component), ("language", .str languageName),
  ("file_extension", .str m.extension), ("prop_count", .int m.props),
  ("state_count", .int m.state), ("method_count", .int m.methods),
  ("dependency_count", .int m.dependencies)]

structure Report where
  code : String
  warnings : List String
  metadata : Metadata
  deriving Inhabited

abbrev Reported := Except GenerationError Report

def GenerationError.reported (e : GenerationError) : String :=
  "Code generation failed: " ++ e.message

namespace Reported

def success : Reported → Bool
  | .ok _ => true
  | .error _ => false

def code : Reported → String
  | .ok r => r.code
  | .error _ => ""

def warnings : Reported → List String
  | .ok r => r.warnings
  | .error _ => []

def metadata : Reported → List (String × Value)
  | .ok r => r.metadata.entries
  | .error _ => []

def exception? : Reported → Option GenerationError
  | .ok _ => none
  | .error e => some e

def errorMessage? (r : Reported) : Option String := r.exception?.map GenerationError.reported

end Reported

namespace Log

/-- The records of an error of generation; one that cannot be written is left out. -/
def ofGenerationError (component : Value) (e : GenerationError) : List Record :=
  let failed := component.shown.map fun shown =>
    error ("Generation of " ++ shown ++ " failed: " ++ e.message)
  match e with
  | .unsupportedProp _ definition shown _ =>
    let type := match definition with
      | .map es => (Entries.get? es "type").getD .null
      | _ => .null
    let unsupported := type.display.map fun displayed =>
      error ("Unsupported prop type " ++ displayed ++ " for prop " ++ shown)
    unsupported.toList ++ failed.toList
  | _ => failed.toList

end Log

end Componentry
