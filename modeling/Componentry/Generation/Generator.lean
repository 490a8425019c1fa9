import Componentry.Component.Options
import Componentry.Component.Reader
import Componentry.Generation.Formatting
import Componentry.Generation.Report
import Componentry.Settings.Layers
import Componentry.Template.Engine

/-!
# The generator

A generator is made with settings. Its quote and the end of its statements are fixed then; the other
settings count as they are when a component is generated. The templates are chosen when the first
component is framed, and stay chosen. The diagnostics are those of the last component.
-/

namespace Componentry

structure Generator where
  settings : Settings
  quote : Char
  terminator : String
  engine : Option Template.Engine
  diagnostics : List Diagnostic
  deriving Inhabited

namespace Generator

def ofSettings (s : Settings) : Generator := ⟨s, s.quote, s.terminator, none, []⟩

/-- The settings that a configuration stands for: overrides, the path of a file, or nothing. -/
def settingsOf (files : FileTree) (config : Value) : Result Settings :=
  match config with
  | .null => Settings.load files none .null
  | .str path => Settings.load files (Settings.file? path) .null
  | .map es => Settings.load files none (.map es)
  | v => .error (.generation (.settingsKind v.fullKindName))

def style [Machine] (g : Generator) : Script.Style := ⟨g.quote, g.terminator, g.settings.margin⟩

def header (name : String) : String :=
  "Generated from UIDL component " ++ name ++ ". Do not edit by hand."

/-- The header that the settings ask for. -/
def headerFor (s : Settings) (name : Value) : Result (Option String) :=
  if (s.value .addComments).truthy then do return some (header (← name.inserted)) else .ok none

def engineFor (g : Generator) (files : FileTree) : Result Template.Engine :=
  match g.engine with
  | some e => .ok e
  | none => do
    let directory := g.settings.value .templateDir
    if directory.truthy then Template.Engine.framing files (some (.ofString (← directory.text)))
    else Template.Engine.framing files none

section

variable [Template.Renderer]

def frame (g : Generator) (files : FileTree) (name : Value) (script : String) :
    Result String × Generator :=
  match do return (← headerFor g.settings name, ← g.engineFor files) with
  | .error f => (.error f, g)
  | .ok (header, engine) =>
    let (code, engine) := engine.render files ("component" ++ g.settings.extension)
      (Template.Frame.context header script)
    (code, { g with engine := some engine })

variable [Machine]

def script (g : Generator) (d : Document) : Recorded String := do
  (← Script.print g.style (← d.declaration)).inserted

def generate (g : Generator) (files : FileTree) (d : Document) : Result String × Generator :=
  let outcome := g.script d
  let g := { g with diagnostics := outcome.diagnostics }
  match outcome.result with
  | .error f => (.error f, g)
  | .ok script => g.frame files d.component.name script

def metadata (g : Generator) (d : Document) : Metadata :=
  ⟨d.component.name, g.settings.extension, d.component.props.length, d.component.state.length,
    d.handlers.length, d.dependencies.length⟩

def format (g : Generator) (code : String) : Result String :=
  Formatting.formatWith (g.settings.value .lineEnding) code

def report (g : Generator) (files : FileTree) (d : Document) : Result Reported × Generator :=
  let (code, g) := g.generate files d
  let reported : Result Reported :=
    match code with
    | .error (.generation e) => .ok (.error e)
    | .error f => .error f
    | .ok code => do
      let formatted ← g.format code
      return .ok ⟨formatted, g.diagnostics.map Diagnostic.text, g.metadata d⟩
  (reported, g)

def assign (g : Generator) (name : String) (v : Value) : Result Generator := do
  return { g with settings := ← g.settings.assign name v }

end

/-- The report on a description under a configuration, with the records of the log. -/
def reportOn [Machine] [Template.Renderer] (files : FileTree) (description config : Value) :
    Result (Reported × List Log.Record) := do
  let d ← Document.ofValue description
  let g := ofSettings (← settingsOf files config)
  let (reported, g) := g.report files d
  let reported ← reported
  let failures := match reported with
    | .ok _ => []
    | .error e => Log.ofGenerationError d.component.name e
  return (reported, Log.ofDiagnostics g.diagnostics ++ failures)

end Generator

end Componentry
