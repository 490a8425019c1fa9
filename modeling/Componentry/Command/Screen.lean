import Componentry.Command.Arguments
import Componentry.Command.Outcome
import Componentry.Generation.Generator
import Componentry.Settings.Layers

/-!
# What a command shows and looks at

The texts that a terminal shows for an outcome, and the paths that a command looks at.
-/

namespace Componentry.Command

def usage : String := Text.join "\n" [
  "usage: componentry [-h] [--log-level LEVEL] COMMAND ...",
  "",
  "  generate [FILE | --url URL | --stdin] [--output PATH | --output-dir PATH]",
  "           [--config FILE] [--format sfc|js] [--template-dir PATH] [--indent N] [--tabs]",
  "           [--quote single|double] [--semicolons] [--no-comments] [--strict] [--verbose]",
  "  show-config [--config FILE]",
  ""]

def shownRows (rows : List (String × String)) : List String :=
  rows.map fun r => "  " ++ r.1 ++ "  " ++ r.2

def Output.text : Output → String
  | nothing => ""
  | usage => Command.usage
  | code text => text
  | settings rows warnings =>
    Text.join "\n" (shownRows rows ++ warnings) ++ "\n"

def Outcome.remarks (o : Outcome) : List String :=
  o.log.map (fun r => r.level.name ++ " " ++ r.message) ++ o.warnings ++
    o.notices ++ shownRows o.metadata ++ (if o.exit = .misused then [Command.usage] else [])

def templatesIn (directory : String) : List Path :=
  ["component.vue", "component.js"].map (Path.ofString directory).child

def pathsOfSettings (s : Settings) : List Path :=
  let text := fun (k : Setting) => match s.value k with
    | .str t => if t.isEmpty then none else some t
    | _ => none
  ((text .templateDir).map templatesIn).getD [] ++ ((text .outputFile).map Path.ofString).toList

/-- The paths that generating a component looks at, given what is known of the files. -/
def GenerateArguments.paths (files : FileTree) (a : GenerateArguments) : List Path :=
  let source := match a.source with
    | some (.file path) => [Path.ofString path]
    | _ => []
  let file := a.settingsFile.bind Settings.file?
  let named := match Settings.load files file (.map a.overrides) with
    | .ok s => pathsOfSettings s
    | .error _ => []
  let directory := (a.outputDirectory.map fun d => (Path.ofString d).child "component").toList
  source ++ file.toList ++ named ++ directory

def Task.paths (files : FileTree) : Task → List Path
  | generate a => a.paths files
  | showSettings file =>
    let file := file.bind Settings.file?
    match Settings.load files file .null with
    | .ok s => file.toList ++ pathsOfSettings s
    | .error _ => file.toList

end Componentry.Command
