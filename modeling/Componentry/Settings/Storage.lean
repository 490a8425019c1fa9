import Componentry.Json.Writer
import Componentry.Settings.Layers

/-!
# Writing settings

Settings are written as one JSON object: the listed settings in their order, then the entries of
`custom`, which win over a setting of the same name. The file is emptied before its text is known,
so a failure leaves what had been written by then.
-/

namespace Componentry

namespace Settings

def toEntries (s : Settings) : Result (Entries Value) := do
  let listed : Entries Value := Setting.listed.map fun k => (.str k.name, s.value k)
  return listed.update (← (s.value .custom).updates)

/-- The text of settings as far as it can be written, and what it stops at. -/
def draft (s : Settings) : Result Json.Draft := do
  return Json.write .document (.map (← s.toEntries))

/-- The files after settings have been saved to a path, and whether saving succeeded. -/
def save (files : FileTree) (s : Settings) (p : Path) : FileTree × Result Unit :=
  let refuse := fun e => Failure.settings (.unwritable p.text e)
  let put := fun (text : String) => (files.write refuse p text.toUTF8).toOption.getD files
  match files.write refuse p .empty with
  | .error f => (files, .error f)
  | .ok emptied =>
    match s.draft with
    | .error f => (emptied, .error f)
    | .ok draft =>
      (put draft.text, draft.result.map fun _ => ())

def saveNothing (files : FileTree) (p : Path) : FileTree × Result Unit :=
  match files.write (fun e => .settings (.unwritable p.text e)) p .empty with
  | .error f => (files, .error f)
  | .ok emptied => (emptied, Result.fault .memberless)

end Settings

end Componentry
