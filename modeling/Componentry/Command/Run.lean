import Componentry.Command.Arguments
import Componentry.Command.Outcome
import Componentry.Generation.Generator
import Componentry.Loading.Load
import Componentry.Naming.Stem
import Componentry.Settings.Check
import Componentry.Settings.Storage

/-!
# Running commands

A component is generated in four steps, each of which may end the command: loading the document,
loading the settings, generating, and writing the code. Nothing is written before the code is
complete, and then it goes to one place: a file in the given directory, else the file that the
settings name, else standard output.
-/

namespace Componentry.Command

structure Surroundings where
  files : FileTree
  input : String
  fetch : String → Loading.Reply

def document (w : Surroundings) (a : GenerateArguments) : Loading :=
  match a.source with
  | some .stdin => Loading.ofText "<stdin>" w.input
  | some (.file path) =>
    if path.isEmpty then ⟨[], [], .error (.command .noInput)⟩
    else Loading.load w.files w.fetch path "" Loading.defaultLimit
  | some (.url url) =>
    if url.isEmpty then ⟨[], [], .error (.command .noInput)⟩
    else Loading.load w.files w.fetch "" url Loading.defaultLimit
  | none => ⟨[], [], .error (.command .noInput)⟩

def settings (files : FileTree) (file : Option String) (overrides : Entries Value) :
    Result Settings :=
  Settings.load files (file.bind Settings.file?) (.map overrides)

def checkedSettings (files : FileTree) (a : GenerateArguments) :
    Result (Settings × List String) := do
  let s ← settings files a.settingsFile a.overrides
  return (s, ← s.warnings files)

def settingsLog (warnings : List String) : List Log.Record :=
  warnings.map fun w => Log.warn ("Configuration: " ++ w)

/-- The file that the code of a component goes to, none if it goes to standard output. -/
def target (a : GenerateArguments) (s : Settings) (m : Metadata) : Result (Option Path) := do
  match a.outputDirectory.filter (!·.isEmpty) with
  | some directory =>
    let stem := Naming.fileStem (← m.component.text)
    return some ((Path.ofString directory).child (stem ++ m.extension))
  | none =>
    let file := s.value .outputFile
    if file.truthy then return some (.ofString (← file.text)) else return none

/-- The files with code written to a path, in directories that are made if they are missing. -/
def save (files : FileTree) (p : Path) (code : String) : Result FileTree := do
  let refuse := fun (e : SystemError) (about : Path) =>
    Failure.command (.unwritable p.text e about.text)
  let files ← files.makeDirectory refuse p.parent
  files.write (refuse · p) p code.toUTF8

variable [Console]

def table (m : Metadata) : Result (List (String × String)) := do
  shownTable (← m.entries.mapM fun e => do return (e.1, ← e.2.inserted))

def exitFor (s : Settings) (r : Report) : Exit :=
  if !r.warnings.isEmpty && (s.value .failOnWarnings).truthy then .warned else .done

def deliver (o : Outcome) (a : GenerateArguments) (s : Settings) (r : Report) :
    Result Outcome := do
  let o ← o.warned r.warnings
  let finish := fun (o : Outcome) => do
    let metadata ← if a.verbose then table r.metadata else pure []
    return { o with exit := exitFor s r, metadata := metadata }
  o.after (target a s r.metadata) fun
    | none => finish { o with output := .code r.code }
    | some p =>
      o.after (save o.files p r.code) fun files => do
        finish (← { o with files := files }.noticed ("[green]✓[/green] Wrote " ++ p.text))

section

variable [Machine] [Template.Renderer]

def build (o : Outcome) (a : GenerateArguments) (s : Settings) (description : Value) :
    Result Outcome :=
  o.after (Document.ofValue description) fun d =>
    let (reported, g) := (Generator.ofSettings s).report o.files d
    let o := o.logged (Log.ofDiagnostics g.diagnostics)
    o.after reported fun
      | .error e =>
        (o.logged (Log.ofGenerationError d.component.name e)).refused
          ("[red]✗ " ++ Console.escaped e.reported ++ "[/red]")
      | .ok r => deliver o a s r

def generate (w : Surroundings) (a : GenerateArguments) : Result Outcome :=
  let loading := document w a
  let o := (Outcome.initial w.files).logged loading.log
  o.after loading.result fun loaded =>
    o.after (checkedSettings w.files a) fun (s, warnings) =>
      build (o.logged (settingsLog warnings)) a s loaded.description

end

def keyCell : Value → Result String
  | .str s => .ok s
  | .null => .ok ""
  | _ => Result.fault .unshowable

def warningSign : String := "⚠️ "

def showSettings (w : Surroundings) (file : Option String) : Result Outcome :=
  let o := Outcome.initial w.files
  o.after (settings w.files file []) fun s => do
    let cells ← (← s.toEntries).mapM fun e => do
      let value ← Result.ofText e.2.display
      return (← keyCell e.1, value)
    let rows ← shownTable cells
    let warnings ← (← s.warnings w.files).mapM fun warning =>
      Console.display ("[yellow]" ++ warningSign ++ warning ++ "[/yellow]")
    return { o with
      output := .settings rows warnings
      exit := if warnings.isEmpty then .done else .warned }

variable [Machine] [Template.Renderer]

def Invocation.run (w : Surroundings) (i : Invocation) : Result Outcome := do
  let level ← match i.level with
    | none => Result.fault .memberless
    | some level => pure level
  let o ← match i.task with
    | none => pure { Outcome.initial w.files with output := .usage, exit := .failed }
    | some (.generate a) => generate w a
    | some (.showSettings file) => showSettings w file
  return { o with log := Log.kept level o.log }

def run (w : Surroundings) (line : List String) : Result Outcome :=
  match Invocation.ofLine line with
  | .ok i => i.run w
  | .error .help => .ok { Outcome.initial w.files with output := .usage }
  | .error .misused => .ok { Outcome.initial w.files with exit := .misused }

end Componentry.Command
