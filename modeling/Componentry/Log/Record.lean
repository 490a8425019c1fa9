import Componentry.Component.Diagnostic

/-!
# Records of the log

What happens is logged with a level. Diagnostics are warnings, and failures are errors.
-/

namespace Componentry.Log

inductive Level where
  | notSet
  | debug
  | info
  | warning
  | error
  | critical
  deriving DecidableEq, Repr, Inhabited

namespace Level

def rank : Level → Nat
  | notSet => 0
  | debug => 10
  | info => 20
  | warning => 30
  | error => 40
  | critical => 50

def name : Level → String
  | notSet => "NOTSET"
  | debug => "DEBUG"
  | info => "INFO"
  | warning => "WARNING"
  | error => "ERROR"
  | critical => "CRITICAL"

end Level

structure Record where
  level : Level
  message : String
  deriving DecidableEq, Repr, Inhabited

def warn (message : String) : Record := ⟨.warning, message⟩

def error (message : String) : Record := ⟨.error, message⟩

def ofDiagnostics (ds : List Diagnostic) : List Record := ds.map fun d => warn d.text

def kept (level : Level) (records : List Record) : List Record :=
  records.filter fun r => level.rank ≤ r.level.rank

end Componentry.Log
