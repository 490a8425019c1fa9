import Componentry.Failure

/-!
# Problems that do not stop generation

A diagnostic reports something in a description that is left out of the generated component. An
operation that records diagnostics keeps those recorded before a failure.
-/

namespace Componentry

structure Diagnostic where
  code : String
  message : String
  location : Option String
  deriving DecidableEq, Repr, Inhabited

namespace Diagnostic

def text (d : Diagnostic) : String :=
  match d.location with
  | none => d.message
  | some l => if l.isEmpty then d.message else l ++ ": " ++ d.message

def missingCall (location : String) : Diagnostic :=
  ⟨"missing-calls", "No prop definition referenced under the \"calls\" field", some location⟩

def unknownProp (name location : String) : Diagnostic :=
  ⟨"unknown-prop", "No prop definition was found for function \"" ++ name ++ "\"", some location⟩

end Diagnostic

structure Recorded (α : Type) where
  diagnostics : List Diagnostic
  result : Result α

namespace Recorded

variable {α β : Type}

def lift (r : Result α) : Recorded α := ⟨[], r⟩

def record (d : Diagnostic) : Recorded Unit := ⟨[d], .ok ()⟩

def andThen (m : Recorded α) (next : α → Recorded β) : Recorded β :=
  match m.result with
  | .error e => ⟨m.diagnostics, .error e⟩
  | .ok a => ⟨m.diagnostics ++ (next a).diagnostics, (next a).result⟩

instance : Monad Recorded where
  pure a := ⟨[], .ok a⟩
  bind := andThen

instance : MonadLift Result Recorded := ⟨lift⟩

end Recorded

end Componentry
