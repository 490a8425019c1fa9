import Componentry.Command.Words
import Componentry.Files.Path
import Componentry.Log.Record
import Componentry.Settings.Basic
import Componentry.Text.Numeral

/-!
# Arguments of the commands

The command line names the level of the log and then one of two commands: generating a component,
or showing the settings. A document comes from one source, and code goes to one destination; giving
two of either is a misuse, even if one of them is empty. A path or a URL that is left out is empty,
a choice that is left out is not made, and a width that is left out is given without a number.
-/

namespace Componentry.Command

inductive Source where
  | file (path : String)
  | url (url : String)
  | stdin
  deriving DecidableEq, Repr

/-- Where generated code goes, unless the settings or nothing at all decide it. -/
inductive Destination where
  | file (path : String)
  | directory (path : String)
  deriving DecidableEq, Repr

structure GenerateArguments where
  source : Option Source := none
  destination : Option Destination := none
  settingsFile : Option String := none
  format : Option String := none
  templateDir : Option String := none
  /-- The width of the indentation, if it is given; it may be given without a number. -/
  indent : Option (Option Int) := none
  tabs : Bool := false
  quote : Option String := none
  semicolons : Bool := false
  noComments : Bool := false
  strict : Bool := false
  verbose : Bool := false
  deriving DecidableEq, Repr, Inhabited

inductive Task where
  | generate (arguments : GenerateArguments)
  | showSettings (settingsFile : Option String)
  deriving DecidableEq, Repr

structure Invocation where
  /-- The least level of the log; none if it is asked for without a name. -/
  level : Option Log.Level := some .warning
  task : Option Task := none
  deriving DecidableEq, Repr, Inhabited

namespace GenerateArguments

inductive Key where
  | help
  | url
  | stdin
  | output
  | outputDir
  | settingsFile
  | format
  | templateDir
  | indent
  | tabs
  | quote
  | semicolons
  | noComments
  | strict
  | verbose
  deriving DecidableEq, Repr

def forms : List (OptionForm Key) := [
  ⟨.help, ["-h", "--help"], false⟩,
  ⟨.url, ["--url"], true⟩,
  ⟨.stdin, ["--stdin"], false⟩,
  ⟨.output, ["--output", "-o"], true⟩,
  ⟨.outputDir, ["--output-dir"], true⟩,
  ⟨.settingsFile, ["--config"], true⟩,
  ⟨.format, ["--format"], true⟩,
  ⟨.templateDir, ["--template-dir"], true⟩,
  ⟨.indent, ["--indent"], true⟩,
  ⟨.tabs, ["--tabs"], false⟩,
  ⟨.quote, ["--quote"], true⟩,
  ⟨.semicolons, ["--semicolons"], false⟩,
  ⟨.noComments, ["--no-comments"], false⟩,
  ⟨.strict, ["--strict"], false⟩,
  ⟨.verbose, ["--verbose"], false⟩]

/-- The arguments with a source, which must not be given besides one of another kind. -/
def withSource (a : GenerateArguments) (s : Source) : Except Stop GenerateArguments :=
  match a.source, s with
  | none, _ => .ok { a with source := some s }
  | some (.url _), .url _ => .ok { a with source := some s }
  | some .stdin, .stdin => .ok a
  | some _, _ => .error .misused

/-- The arguments with a destination, which must not be given besides one of another kind. -/
def withDestination (a : GenerateArguments) (d : Destination) : Except Stop GenerateArguments :=
  match a.destination, d with
  | none, _ => .ok { a with destination := some d }
  | some (.file _), .file _ => .ok { a with destination := some d }
  | some (.directory _), .directory _ => .ok { a with destination := some d }
  | some _, _ => .error .misused

/-- A choice between words, none if it is left out. -/
def chosen (choices : List String) : Option String → Except Stop (Option String)
  | none => .ok none
  | some value => if choices.contains value then .ok (some value) else .error .misused

/-- A whole number, none if it is left out. -/
def number : Option String → Except Stop (Option Int)
  | none => .ok none
  | some value =>
    match Text.readInteger value with
    | some n => .ok (some n)
    | none => .error .misused

def take (a : GenerateArguments) (key : Key) (value : Option String) :
    Except Stop GenerateArguments :=
  let text := value.getD ""
  match key with
  | .help => .error .help
  | .url => a.withSource (.url text)
  | .stdin => a.withSource .stdin
  | .output => a.withDestination (.file text)
  | .outputDir => a.withDestination (.directory text)
  | .settingsFile => .ok { a with settingsFile := some text }
  | .format => do return { a with format := ← chosen ["sfc", "js"] value }
  | .templateDir => .ok { a with templateDir := some text }
  | .indent => do return { a with indent := some (← number value) }
  | .tabs => .ok { a with tabs := true }
  | .quote => do return { a with quote := ← chosen ["single", "double"] value }
  | .semicolons => .ok { a with semicolons := true }
  | .noComments => .ok { a with noComments := true }
  | .strict => .ok { a with strict := true }
  | .verbose => .ok { a with verbose := true }

def ofLine (line : List String) : Except Stop GenerateArguments :=
  interpret forms .single take (fun a path _ => a.withSource (.file path)) {} line

def given (k : Setting) (v : Option Value) : Entries Value :=
  (v.map fun v => (.str k.name, v)).toList

def provided (fine : Bool) (v : Value) : Option Value := if fine then some v else none

def filled (s : Option String) : Option Value := (s.filter (!·.isEmpty)).map .str

/-- The width of an indentation as a value, which is an empty list if it has no number. -/
def width (n : Option Int) : Value := n.elim (.list []) .int

def outputFile (a : GenerateArguments) : Option String :=
  match a.destination with
  | some (.file path) => some path
  | _ => none

def outputDirectory (a : GenerateArguments) : Option String :=
  match a.destination with
  | some (.directory path) => some path
  | _ => none

def overrides (a : GenerateArguments) : Entries Value :=
  given .outputFormat (filled a.format) ++ given .templateDir (filled a.templateDir) ++
  given .indentSize (a.indent.map width) ++ given .useTabs (provided a.tabs (.bool true)) ++
  given .quoteStyle (filled a.quote) ++ given .semicolons (provided a.semicolons (.bool true)) ++
  given .addComments (provided a.noComments (.bool false)) ++
  given .failOnWarnings (provided a.strict (.bool true)) ++
  given .outputFile (filled a.outputFile)

end GenerateArguments

inductive ShowKey where
  | help
  | settingsFile
  deriving DecidableEq, Repr

/-- The path of the settings file that a command line behind the command's name gives. -/
def settingsFileOf (line : List String) : Except Stop (Option String) :=
  interpret [⟨ShowKey.help, ["-h", "--help"], false⟩, ⟨.settingsFile, ["--config"], true⟩]
    .forbidden
    (fun _ key value => match key with
      | .help => .error .help
      | .settingsFile => .ok (some (value.getD "")))
    (fun _ _ _ => .error .misused) none line

namespace Invocation

inductive Key where
  | help
  | logLevel
  deriving DecidableEq, Repr

def levels : List Log.Level := [.debug, .info, .warning, .error]

def take (i : Invocation) (key : Key) (value : Option String) : Except Stop Invocation :=
  match key, value with
  | .help, _ => .error .help
  | .logLevel, none => .ok { i with level := none }
  | .logLevel, some name =>
    match levels.find? fun l => l.name = name with
    | some l => .ok { i with level := some l }
    | none => .error .misused

def command (i : Invocation) (name : String) (line : List String) : Except Stop Invocation :=
  match name with
  | "generate" =>
    match GenerateArguments.ofLine line with
    | .ok a => .ok { i with task := some (.generate a) }
    | .error stop => .error stop
  | "show-config" =>
    match settingsFileOf line with
    | .ok file => .ok { i with task := some (.showSettings file) }
    | .error stop => .error stop
  | _ => .error .misused

def ofLine (line : List String) : Except Stop Invocation :=
  interpret [⟨Key.help, ["-h", "--help"], false⟩, ⟨.logLevel, ["--log-level"], true⟩] .nested take
    command {} line

end Invocation

end Componentry.Command
