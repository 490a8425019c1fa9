import Componentry.Failure
import Componentry.Script.Printer

/-!
# Settings of the generator

Settings come from files and callers and are not checked when they are made, so each holds a value
of any kind. What is not a setting is kept under `custom`.

The indentation is as long as its setting says, so a machine need not have room for it.
-/

namespace Componentry

class Machine where
  /-- Whether there is room for a text of so many characters. -/
  holds : (length : Nat) → Bool

namespace Machine

variable [Machine]

/-- Why there is no text of so many characters: they cannot be counted, or there is no room. -/
def refusal? (length : Nat) : Option Fault :=
  if Nat.pow 2 63 ≤ length then some .outOfRange
  else if holds length then none
  else some .exhausted

def makeRoom (length : Nat) : Result Unit :=
  match refusal? length with
  | some f => Result.fault f
  | none => .ok ()

end Machine

inductive Setting where
  | outputFile
  | outputFormat
  | templateDir
  | indentSize
  | useTabs
  | lineEnding
  | quoteStyle
  | semicolons
  | addComments
  | failOnWarnings
  | custom
  deriving DecidableEq, Repr, Inhabited

namespace Setting

def name : Setting → String
  | outputFile => "output_file"
  | outputFormat => "output_format"
  | templateDir => "template_dir"
  | indentSize => "indent_size"
  | useTabs => "use_tabs"
  | lineEnding => "line_ending"
  | quoteStyle => "quote_style"
  | semicolons => "semicolons"
  | addComments => "add_comments"
  | failOnWarnings => "fail_on_warnings"
  | custom => "custom"

/-- All settings but `custom`, in the order in which they are listed. -/
def listed : List Setting := [
  outputFile, outputFormat, templateDir, indentSize, useTabs, lineEnding, quoteStyle, semicolons,
  addComments, failOnWarnings]

def all : List Setting := listed ++ [custom]

def ofKey? (key : Value) : Option Setting := all.find? fun s => key.isText s.name

def default : Setting → Value
  | outputFile => .null
  | outputFormat => .str "sfc"
  | templateDir => .null
  | indentSize => .int 2
  | useTabs => .bool false
  | lineEnding => .str "\n"
  | quoteStyle => .str "single"
  | semicolons => .bool false
  | addComments => .bool true
  | failOnWarnings => .bool false
  | custom => .map []

end Setting

structure Settings where
  value : Setting → Value

namespace Settings

def default : Settings := ⟨Setting.default⟩

instance : Inhabited Settings := ⟨default⟩

def put (s : Settings) (k : Setting) (v : Value) : Settings :=
  ⟨fun j => if j = k then v else s.value j⟩

/-- A number of blanks given by a value; a truth value counts as zero or one. -/
def count : Value → Result Int
  | .int i => .ok i
  | .bool b => .ok (if b then 1 else 0)
  | _ => Result.fault .mistyped

def spaces (n : Int) : String := String.ofList (List.replicate n.toNat ' ')

def quote (s : Settings) : Char :=
  if (s.value .quoteStyle).isText "double" then '"' else '\''

def terminator (s : Settings) : String :=
  if (s.value .semicolons).truthy then ";" else ""

section

variable [Machine]

def blanks (size : Value) : Result String := do
  let n ← count size
  if n < -Int.pow 2 63 then Result.fault .outOfRange
  else do
    Machine.makeRoom n.toNat
    return spaces n

def indent (s : Settings) : Result String :=
  if (s.value .useTabs).truthy then .ok "\t" else blanks (s.value .indentSize)

/-- The indentation of a level, which is made anew for each line end. -/
def margin (s : Settings) (level : Nat) : Result String := do
  let indent ← s.indent
  Machine.makeRoom (indent.length * level)
  return Text.repeated indent level

def style (s : Settings) : Script.Style := ⟨s.quote, s.terminator, s.margin⟩

end

def plainScript (s : Settings) : Bool := (s.value .outputFormat).isText "js"

def extension (s : Settings) : String := if s.plainScript then ".js" else ".vue"

/-- The settings with an attribute assigned by its name. The indentation cannot be assigned, and
what is not a setting is ignored. -/
def assign (s : Settings) (name : String) (v : Value) : Result Settings :=
  if name = "indent" then Result.fault .memberless
  else
    match Setting.ofKey? (.str name) with
    | some k => .ok (s.put k v)
    | none => .ok s

end Settings

end Componentry
