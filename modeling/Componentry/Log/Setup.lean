import Componentry.Log.Record

/-!
# Setting up the log

The log is set up by the name of a level. A handler is added the first time only; after that only
the level changes.
-/

namespace Componentry.Log

def rootName : String := "uidl_vue"

/-- The name of a logger, nested under the root unless it already is. -/
def loggerName (name : String) : String :=
  if name = rootName || (rootName ++ ".").toList.isPrefixOf name.toList then name
  else rootName ++ "." ++ name

inductive Handler where
  | rich
  | stream
  deriving DecidableEq, Repr, Inhabited

def Handler.name : Handler → String
  | rich => "RichHandler"
  | stream => "StreamHandler"

structure Setup where
  level : Level
  handlers : List Handler
  deriving DecidableEq, Repr, Inhabited

def Setup.initial : Setup := ⟨.notSet, []⟩

/-- The upper-case letters that a character becomes, as far as they are ASCII. -/
def upperChar (c : Char) : List Char :=
  match c with
  | 'ı' => ['I']
  | 'ſ' => ['S']
  | 'ß' => ['S', 'S']
  | 'ﬀ' => ['F', 'F']
  | 'ﬁ' => ['F', 'I']
  | 'ﬂ' => ['F', 'L']
  | 'ﬃ' => ['F', 'F', 'I']
  | 'ﬄ' => ['F', 'F', 'L']
  | 'ﬅ' => ['S', 'T']
  | 'ﬆ' => ['S', 'T']
  | c => [c.toUpper]

/-- The level that a name in upper case stands for; an unknown name stands for warnings. Two names
stand for something that is no level. -/
def levelNamed (upper : String) : Result Level :=
  match upper with
  | "NOTSET" => .ok .notSet
  | "DEBUG" => .ok .debug
  | "INFO" => .ok .info
  | "ERROR" => .ok .error
  | "FATAL" => .ok .critical
  | "CRITICAL" => .ok .critical
  | "BASIC_FORMAT" => Result.fault .malformed
  | "_STYLES" => Result.fault .mistyped
  | _ => .ok .warning

def levelOf (name : String) : Result Level :=
  levelNamed (String.ofList (name.toList.flatMap upperChar))

def Setup.configure (s : Setup) (name : String) (rich : Bool) : Result Setup := do
  let level ← levelOf name
  let handlers := if s.handlers.isEmpty then [if rich then .rich else .stream] else s.handlers
  return ⟨level, handlers⟩

end Componentry.Log
