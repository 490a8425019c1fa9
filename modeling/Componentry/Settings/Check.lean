import Componentry.Files.Tree
import Componentry.Settings.Basic

/-!
# What is wrong with settings

Checking settings gives one warning for each setting whose value is not among the possible ones and
one for each unknown entry. It says nothing about the kinds of values that it cannot look at.
-/

namespace Componentry

namespace Settings

/-- Whether a value is one of some texts. Values that cannot be keys cannot be looked up, except for
sets, which are never found. -/
def isOneOf (options : List String) (v : Value) : Result Bool :=
  match v with
  | .set _ => .ok false
  | v => if v.canBeKey then .ok (options.any v.isText) else Result.fault .mistyped

def isPositive : Value → Bool
  | .int i => 1 ≤ i
  | .bool b => b
  | _ => false

/-- A warning about a value, given the text of the value, unless all is fine. -/
def warnUnless (fine : Bool) (warning : String) (about : Option String) : Result (List String) :=
  if fine then .ok [] else do return [warning ++ (← Result.ofText about)]

/-- Whether a value can be the directory of templates: it counts as false, or a directory is
there. -/
def isTemplateDir (files : FileTree) (v : Value) : Result Bool := do
  if v.truthy then files.hasDirectory (.ofString (← v.text)) else return true

def warnings (files : FileTree) (s : Settings) : Result (List String) := do
  let format := s.value .outputFormat
  let quotes := s.value .quoteStyle
  let size := s.value .indentSize
  let ending := s.value .lineEnding
  let templates := s.value .templateDir
  let a ← warnUnless (← isOneOf ["sfc", "js"] format) "Invalid output_format: " format.shown
  let b ← warnUnless (← isOneOf ["single", "double"] quotes) "Invalid quote_style: " quotes.shown
  let c ← warnUnless (isPositive size) "Invalid indent_size: " size.shown
  let d ← warnUnless (← isOneOf ["\n", "\r\n"] ending) "Invalid line_ending: " ending.display
  let e ← warnUnless (← isTemplateDir files templates) "Template directory not found: "
    templates.shown
  let f ← (← (s.value .custom).items).mapM fun key => do
    return "Unknown configuration key: " ++ (← key.inserted)
  return a ++ b ++ c ++ d ++ e ++ f

end Settings

end Componentry
