import Componentry.Files.SystemError
import Componentry.Json.Complaint
import Componentry.Value.Display

/-!
# Why an operation has no result

A failure is either one of the errors that the library declares, each with the facts that its
message needs, or a fault: a step that is not defined on the kind of value it met. Faults have no
message of their own.
-/

namespace Componentry

inductive Fault where
  /-- Values of this kind do not support the operation. -/
  | mistyped
  /-- The value has no member of that name. -/
  | memberless
  /-- The content of the value is outside the domain of the operation. -/
  | malformed
  /-- Bytes that have to be text are not UTF-8. -/
  | undecodable
  /-- A number exceeds what the operation can count. -/
  | outOfRange
  /-- There is no room for a text. -/
  | exhausted
  /-- The file system refused where no refusal is provided for. -/
  | refused
  /-- A tag of markup closes no open tag, or an action in it cannot be read. -/
  | misnested
  /-- A value of this kind has no place in a table that is shown. -/
  | unshowable
  deriving DecidableEq, Repr, Inhabited

inductive GenerationError where
  | unprintable (kind : String)
  /-- A value has no literal; `displayed` is its text. -/
  | noLiteral (value : Value) (displayed : String)
  /-- The type of a prop is none of the known ones; `shown` is the name as text and `written` the
  definition as JSON. -/
  | unsupportedProp (name definition : Value) (shown written : String)
  | badDependency (name : String)
  | settingsKind (kind : String)
  deriving Inhabited

inductive SettingsError where
  | missing (path : String)
  | notJson (path : String)
  | invalid (path : String) (complaint : Json.Complaint)
  | unreadable (path : String) (cause : SystemError)
  | notAnObject (path : String)
  | unwritable (path : String) (cause : SystemError)
  deriving DecidableEq, Repr, Inhabited

inductive LoadError where
  | invalidText (source : String) (complaint : Json.Complaint)
  | invalidFile (path : String) (complaint : Json.Complaint)
  | invalidReply (url : String) (complaint : Json.Complaint)
  | notAnObject (source : String)
  | unreadable (path : String) (cause : SystemError)
  | noSource
  | twoSources
  | badUrl (url : String)
  | timeout (url : String)
  | connection (url text : String)
  | status (code : Int) (url : String)
  | request (url text : String)
  deriving DecidableEq, Repr, Inhabited

inductive CommandError where
  | noInput
  | unwritable (path : String) (cause : SystemError) (about : String)
  deriving DecidableEq, Repr, Inhabited

inductive Failure where
  | fault (f : Fault)
  | generation (e : GenerationError)
  | template (name text : String)
  | settings (e : SettingsError)
  | loading (e : LoadError)
  | fileNotFound (path : String)
  | command (e : CommandError)
  deriving Inhabited

abbrev Result := Except Failure

def Result.fault {α : Type} (f : Fault) : Result α := .error (.fault f)

/-- The text of a value, which there is none of if a number in it has too many digits. -/
def Result.ofText (text : Option String) : Result String :=
  match text with
  | some s => .ok s
  | none => fault .malformed

/-- The text that a value contributes where it is inserted into other text. -/
def Value.inserted (v : Value) : Result String := .ofText v.shown

def GenerationError.message : GenerationError → String
  | unprintable kind => "Cannot print node of type " ++ kind
  | noLiteral value displayed =>
    "Cannot convert value of type " ++ value.kindName ++ " to a literal: " ++ displayed
  | unsupportedProp _ _ shown written => "Unsupported prop type for '" ++ shown ++ "': " ++ written
  | badDependency name =>
    "Dependency name " ++ Text.quoted name ++ " is not a valid JavaScript identifier"
  | settingsKind kind => "Invalid config type: <class '" ++ kind ++ "'>"

def SettingsError.message : SettingsError → String
  | missing path => "Configuration file not found: " ++ path
  | notJson path => "Configuration file must be JSON: " ++ path
  | invalid path c => "Invalid JSON in configuration file " ++ path ++ ": " ++ c.message
  | unreadable path e =>
    "Failed to load configuration file " ++ path ++ ": " ++ e.message path
  | notAnObject path => "Configuration file must contain a JSON object: " ++ path
  | unwritable path e => "Failed to save configuration to " ++ path ++ ": " ++ e.message path

def LoadError.message : LoadError → String
  | invalidText source c => "Invalid JSON from " ++ source ++ ": " ++ c.message
  | invalidFile path c => "Invalid JSON in file " ++ path ++ ": " ++ c.message
  | invalidReply url c => "Invalid JSON response from URL " ++ url ++ ": " ++ c.message
  | notAnObject source => "UIDL document must be a JSON object: " ++ source
  | unreadable path e => "Error reading file " ++ path ++ ": " ++ e.message path
  | noSource => "Either file_path or url must be provided"
  | twoSources => "Cannot specify both file_path and url"
  | badUrl url => "Invalid URL: " ++ url
  | timeout url => "Request timeout for URL: " ++ url
  | connection url _ => "Connection error for URL: " ++ url
  | status code url => "HTTP error " ++ Text.decimal code ++ " for URL: " ++ url
  | request url text => "Request error for URL " ++ url ++ ": " ++ text

def CommandError.message : CommandError → String
  | noInput => "Input source required (file, --url, or --stdin)"
  | unwritable path e about => "Failed to write " ++ path ++ ": " ++ e.message about

/-- The wording of a failure; faults have none. -/
def Failure.message? : Failure → Option String
  | fault _ => none
  | generation e => some e.message
  | template name text => some ("Failed to render template " ++ name ++ ": " ++ text)
  | settings e => some e.message
  | loading e => some e.message
  | fileNotFound path => some ("File not found: " ++ path)
  | command e => some e.message

end Componentry
