import Componentry.Program.Template.Render
import Componentry.Template.Engine

/-!
# The renderer of the program

The renderer finds a template by its name: first among the files of the directory, then among those
that the engine was given. A template that was found among the given ones stays in use until it is
given again with another source.
-/

namespace Componentry.Program

open Componentry.Template

namespace Template

/-- The names below a directory that the name of a template leads through, none if it would leave
the directory. -/
def fileNames? (name : String) : Option (List String) :=
  let pieces := (Text.splitAt '/' name.toList).map String.ofList
  if pieces.contains ".." then none else some (pieces.filter fun p => p ≠ "" && p ≠ ".")

def file? (r : Rendering) : Option ByteArray := do
  let directory ← r.sources.directory
  let names ← fileNames? r.name
  let p : Path := { directory with parts := directory.parts ++ names }
  (r.files.read (fun _ => .fault .refused) p).toOption

def given? (r : Rendering) : Option String := r.sources.given.lookup r.name

/-- Whether the given template is in use with the source that it has now. -/
def isCurrent (inUse : List (String × String)) (r : Rendering) : Bool :=
  match given? r, inUse.lookup r.name with
  | some s, some t => s == t
  | _, _ => false

/-- The source that a renderer without templates in use finds, and whether it was given. -/
def found (r : Rendering) : Except Problem (String × Bool) :=
  match file? r, given? r with
  | some bytes, _ => (Text.decode bytes).mapError .undecodable |>.map (·, false)
  | none, some s => .ok (s, true)
  | none, none => .error (.missing r.name)

def sourceFor (inUse : List (String × String)) (r : Rendering) :
    Except Problem (String × Bool) :=
  match given? r with
  | some s => if isCurrent inUse r then .ok (s, true) else found r
  | none => found r

/-- The templates in use after a rendering: its own was found, and its source was read as parts. -/
def useFor (inUse : List (String × String)) (r : Rendering) : List (String × String) :=
  match sourceFor inUse r with
  | .error _ => inUse
  | .ok (source, isGiven) =>
    match parts source.toList with
    | .error _ => inUse
    | .ok _ =>
      if isGiven then Engine.putSource r.name source inUse else inUse.filter (·.1 ≠ r.name)

def inUse (past : List Rendering) : List (String × String) := past.foldr (fun r s => useFor s r) []

def textOf (r : Rendering) (source : String) : Except Problem String := do
  render r.name (← parts source.toList) r.context

end Template

scoped instance renderer : Renderer :=
  ⟨fun past r => (do Template.textOf r (← Template.sourceFor (Template.inUse past) r).1).mapError
    Template.Problem.message⟩

end Componentry.Program
