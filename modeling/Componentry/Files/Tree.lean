import Componentry.Failure
import Componentry.Files.Path
import Componentry.Text.Utf8

/-!
# Trees of files

A tree holds directories and files below a working directory, which exists always. A path is
followed name by name: every name but the last has to be a directory, and two dots lead to the
directory above, whose contents are not part of the tree. Reading and writing refuse what the file
system refuses, with the first cause met on the way; a path that is too long is refused before it is
followed.
-/

namespace Componentry

inductive Entry where
  | file (content : ByteArray)
  | directory

instance : DecidableEq Entry
  | .file a, .file b =>
    match ByteArray.instDecidableEq a b with
    | isTrue h => isTrue (congrArg Entry.file h)
    | isFalse h => isFalse fun heq => h (Entry.file.inj heq)
  | .directory, .directory => isTrue rfl
  | .file _, .directory => isFalse nofun
  | .directory, .file _ => isFalse nofun

/-- The names that lead from the working directory to a place. Two dots occur only in front; an
absolute place begins with its root. -/
abbrev Place := List String

structure FileTree where
  entries : List (Place × Entry)
  deriving DecidableEq

instance : Inhabited FileTree := ⟨⟨[]⟩⟩

namespace Place

/-- Whether a place is a directory in every tree: the working directory, those above it, and the
root. -/
def isAnchor (p : Place) : Bool := p.all fun n => n == ".." || n == "/" || n == "//"

def parent (p : Place) : Place :=
  match p.getLast? with
  | none => [".."]
  | some ".." => p ++ [".."]
  | some "/" => p
  | some "//" => p
  | some _ => p.dropLast

end Place

namespace FileTree

def empty : FileTree := ⟨[]⟩

def find? (t : FileTree) (p : Place) : Option Entry :=
  if p.isAnchor then some .directory else t.entries.lookup p

/-- The tree with an entry at a place, in the place of what stood there. -/
def put (t : FileTree) (p : Place) (e : Entry) : FileTree :=
  if t.entries.any (·.1 == p) then ⟨t.entries.map fun x => if x.1 == p then (p, e) else x⟩
  else ⟨t.entries ++ [(p, e)]⟩

def nameLimit : Nat := 255

/-- The least number of bytes that are too many for a path. -/
def pathLimit : Nat := 4096

def step (here : Place) (name : String) : Except SystemError Place :=
  if name = ".." then .ok here.parent
  else if nameLimit < name.utf8ByteSize then .error .nameTooLong
  else .ok (here ++ [name])

def enter (t : FileTree) (here : Place) : List String → Except SystemError Place
  | [] => .ok here
  | name :: rest => do
    let next ← step here name
    match t.find? next with
    | none => .error .notFound
    | some (.file _) => .error .notADirectory
    | some .directory => enter t next rest

def start (p : Path) : Place := if p.root.isEmpty then [] else [p.root]

/-- The place that a path leads to; something need not stand there. -/
def locate (t : FileTree) (p : Path) : Except SystemError Place :=
  if pathLimit ≤ p.text.utf8ByteSize then .error .nameTooLong
  else
    match p.parts.getLast? with
    | none => .ok (start p)
    | some last => do step (← t.enter (start p) p.parts.dropLast) last

/-- What stands where a path leads, none if the way to it is missing. A name or a path that is too
long is refused by itself. -/
def lookup (t : FileTree) (p : Path) : Result (Option Entry) :=
  if p.holdsNul then .ok none
  else
    match t.locate p with
    | .ok place => .ok (t.find? place)
    | .error .nameTooLong => Result.fault .refused
    | .error _ => .ok none

def has (t : FileTree) (p : Path) : Result Bool := do return (← t.lookup p).isSome

def hasDirectory (t : FileTree) (p : Path) : Result Bool := do
  return (← t.lookup p) = some .directory

/-- The content of the file where a path leads; refusals become the caller's failures. -/
def read (t : FileTree) (refuse : SystemError → Failure) (p : Path) : Result ByteArray :=
  if p.holdsNul then Result.fault .malformed
  else
    match t.locate p with
    | .error e => .error (refuse e)
    | .ok place =>
      match t.find? place with
      | none => .error (refuse .notFound)
      | some .directory => .error (refuse .isADirectory)
      | some (.file content) => .ok content

/-- The text of the file where a path leads, with every line ended by a line feed. -/
def readText (t : FileTree) (refuse : SystemError → Failure) (p : Path) : Result (List Char) := do
  match Text.decode (← t.read refuse p) with
  | .ok s => return Text.universalNewlines s.toList
  | .error _ => Result.fault .undecodable

def write (t : FileTree) (refuse : SystemError → Failure) (p : Path) (content : ByteArray) :
    Result FileTree :=
  if p.holdsNul then Result.fault .malformed
  else
    match t.locate p with
    | .error e => .error (refuse e)
    | .ok place =>
      if t.find? place = some .directory then .error (refuse .isADirectory)
      else .ok (t.put place (.file content))

/-- The tree with a directory made where a path leads, if the way to it is there. A directory that
is there already is left as it is. -/
def makeHere (t : FileTree) (p : Path) : Except SystemError FileTree := do
  let place ← t.locate p
  match t.find? place with
  | some .directory => return t
  | some (.file _) => throw .alreadyThere
  | none => return t.put place .directory

/-- The tree with a directory made where a path leads; up to `missing` directories on the way to it
are made first. The path of a refusal is the one that could not be made. -/
def makeAll (t : FileTree) (p : Path) : (missing : Nat) → Except (SystemError × Path) FileTree
  | 0 => (t.makeHere p).mapError (·, p)
  | missing + 1 =>
    match t.makeHere p with
    | .error .notFound => do
      let t ← makeAll t p.parent missing
      (t.makeHere p).mapError (·, p)
    | r => r.mapError (·, p)

/-- The tree with a directory made where a path leads, and with the directories on the way to it. -/
def makeDirectory (t : FileTree) (refuse : SystemError → Path → Failure) (p : Path) :
    Result FileTree :=
  if p.holdsNul then Result.fault .malformed
  else (t.makeAll p p.parts.length).mapError fun e => refuse e.1 e.2

end FileTree

end Componentry
