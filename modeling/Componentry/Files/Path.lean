import Componentry.Text.Lines

/-!
# Paths

A path is a root, which is empty for a relative path, and the names that follow it. Empty names and
single dots are dropped when a path is read, double dots are kept, and exactly two leading slashes
are a root of their own.
-/

namespace Componentry

/-- A path with its empty names and single dots removed. -/
structure Path where
  root : String
  parts : List String
  deriving DecidableEq, Repr, Inhabited

namespace Path

def rootOf : List Char → String
  | '/' :: '/' :: '/' :: _ => "/"
  | '/' :: '/' :: _ => "//"
  | '/' :: _ => "/"
  | _ => ""

def ofString (s : String) : Path :=
  let pieces := (Text.splitAt '/' s.toList).map String.ofList
  ⟨rootOf s.toList, pieces.filter fun p => p ≠ "" && p ≠ "."⟩

def text (p : Path) : String :=
  if p.root.isEmpty && p.parts.isEmpty then "." else p.root ++ Text.join "/" p.parts

def name (p : Path) : String := p.parts.getLast?.getD ""

/-- The path without its last name. -/
def parent (p : Path) : Path := { p with parts := p.parts.dropLast }

def child (p : Path) (name : String) : Path := { p with parts := p.parts ++ [name] }

/-- What follows the last dot of a name, with the dot; nothing if the dot is its first or its last
character. -/
def extension (p : Path) : List Char :=
  let ending := p.name.toList.reverse.takeWhile (· != '.')
  let stem := p.name.length - ending.length - 1
  if ending.isEmpty || ending.length == p.name.length || stem = 0 then []
  else '.' :: ending.reverse

def isJson (p : Path) : Bool := p.extension.map Char.toLower == ".json".toList

def holdsNul (p : Path) : Bool := p.parts.any fun s => s.toList.contains '\x00'

end Path

end Componentry
