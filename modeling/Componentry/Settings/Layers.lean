import Componentry.Files.Tree
import Componentry.Json.Reader
import Componentry.Settings.Basic

/-!
# Layers of settings

Settings are merged from three layers: the base, the entries of a file, and the overrides of the
caller; a later layer wins. Entries that are no settings end up in `custom`, after the entries that
a layer gave for `custom` itself.
-/

namespace Componentry

namespace Settings

def base : Entries Value :=
  [Setting.outputFormat, .indentSize, .useTabs, .quoteStyle, .semicolons, .addComments].map
    fun k => (.str k.name, k.default)

/-- The settings of entries that all name settings; any other entry is a fault. -/
def ofFields : Entries Value → Result Settings
  | [] => .ok default
  | (k, v) :: es => do
    match Setting.ofKey? k with
    | some s => return (← ofFields es).put s v
    | none => Result.fault .mistyped

def customEntries (v : Value) : Result (Entries Value) := do
  return Entries.ofPairs (← v.updates)

def unknown (es : Entries Value) : Entries Value := es.filter fun e => (Setting.ofKey? e.1).isNone

def known (es : Entries Value) : Settings :=
  ⟨fun s => (es.get? s.name).getD s.default⟩

def ofEntries (es : Entries Value) : Result Settings := do
  if (unknown es).isEmpty then return known es
  else
    let custom ← customEntries ((known es).value .custom)
    return (known es).put .custom (.map (custom.update (unknown es)))

def readFile (files : FileTree) (p : Path) : Result (Entries Value) := do
  if !(← files.has p) then throw (.settings (.missing p.text))
  if !p.isJson then throw (.settings (.notJson p.text))
  let text ← files.readText (fun e => .settings (.unreadable p.text e)) p
  match ← Json.read (fun c => .settings (.invalid p.text c)) text with
  | .map es => return es
  | _ => throw (.settings (.notAnObject p.text))

/-- Settings merged from the base, a file and overrides, of which the last two may be absent. -/
def load (files : FileTree) (file : Option Path) (overrides : Value) : Result Settings := do
  let fromFile ← match file with
    | none => pure []
    | some p => readFile files p
  let merged := base.update fromFile
  if overrides.truthy then ofEntries (merged.update (← overrides.updates))
  else ofEntries merged

def file? (s : String) : Option Path := if s.isEmpty then none else some (.ofString s)

end Settings

end Componentry
