import Componentry.Files.Tree
import Componentry.Template.Frame
import Componentry.Value.Access

/-!
# The template engine

An engine holds the templates of a directory and templates that it was given by name. Rendering is
left to a renderer: a library that finds the template of a name, the files of the directory first,
and fills it with the values of a context. What it has read it may keep, so that a rendering can
depend on those before it.
-/

namespace Componentry.Template

structure Sources where
  /-- The directory whose files win. -/
  directory : Option Path
  given : List (String × String)
  deriving DecidableEq, Inhabited

/-- What a renderer is asked for. -/
structure Rendering where
  files : FileTree
  sources : Sources
  name : String
  context : Entries Value

class Renderer where
  /-- The text of a rendering behind those that were done before it, the last one first, or what is
  said about its failure. -/
  render : (before : List Rendering) → Rendering → Except String String

def Frame.context (header : Option String) (script : String) : Entries Value :=
  [(.str "script", .str script), (.str "header", header.elim .null .str)]

structure Engine where
  sources : Sources
  /-- The renderings that were asked for, the last one first. -/
  past : List Rendering
  deriving Inhabited

namespace Engine

def putSource (name source : String) : List (String × String) → List (String × String)
  | [] => [(name, source)]
  | (n, s) :: rest =>
    if n = name then (n, source) :: rest else (n, s) :: putSource name source rest

/-- An engine without templates of its own. The directory counts if it is there now. -/
def bare (files : FileTree) (directory : Option Path) : Result Engine := do
  match directory with
  | none => return ⟨⟨none, []⟩, []⟩
  | some p => return ⟨⟨if ← files.has p then some p else none, []⟩, []⟩

def add (e : Engine) (name source : String) : Engine :=
  { e with sources := { e.sources with given := putSource name source e.sources.given } }

/-- An engine that is given the frames. -/
def framing (files : FileTree) (directory : Option Path) : Result Engine := do
  return Frame.all.foldl (fun e f => e.add f.name f.source) (← bare files directory)

def render [Renderer] (e : Engine) (files : FileTree) (name : String) (context : Entries Value) :
    Result String × Engine :=
  let r : Rendering := ⟨files, e.sources, name, context⟩
  ((Renderer.render e.past r).mapError (Failure.template name), { e with past := r :: e.past })

end Engine

end Componentry.Template
