import Componentry.Command.Run
import Componentry.Command.Screen
import Componentry.Program.Machine
import Componentry.Program.Template.Renderer
import Componentry.Program.Terminal.Markup

/-!
# The program

The program gathers what a command looks at, runs it, and puts down what it leaves. It has no
network: a request finds nobody.
-/

namespace Componentry.Program

open Command

/-- What stands at a path of the file system, if the paths above it are directories. -/
def look (path : String) : IO (Option Entry) := do
  match ← EIO.toBaseIO (IO.FS.readBinFile path) with
  | .ok content => return some (.file content)
  | .error (.inappropriateType ..) => return some .directory
  | .error _ => return none

def gather (t : FileTree) (p : Path) : IO FileTree :=
  (List.range (p.parts.length + 1)).foldlM
    (fun t n => do
      let q := { p with parts := p.parts.take n }
      match t.locate q with
      | .error _ => return t
      | .ok place =>
        if (t.find? place).isSome then return t
        match ← look q.text with
        | some entry => return t.put place entry
        | none => return t)
    t

/-- The files that an invocation looks at. What the first files say may lead to more. -/
def gatherFor (i : Invocation) : IO FileTree := do
  let paths := fun t => (i.task.map (Task.paths t)).getD []
  let named ← (paths .empty).foldlM gather .empty
  (paths named).foldlM gather named

def textOf : Place → String
  | "/" :: rest => "/" ++ Text.join "/" rest
  | "//" :: rest => "//" ++ Text.join "/" rest
  | place => Text.join "/" place

def putDown (before after : FileTree) : IO Unit :=
  after.entries.forM fun e => do
    if before.find? e.1 ≠ some e.2 then
      match e.2 with
      | .directory => IO.FS.createDirAll (textOf e.1)
      | .file content => IO.FS.writeBinFile (textOf e.1) content

def readsInput : Option Task → Bool
  | some (.generate a) => a.source = some .stdin
  | _ => false

def readInput : IO String := do
  let text ← (← IO.getStdin).readToEnd
  return String.ofList (Text.universalNewlines text.toList)

end Componentry.Program

open Componentry Componentry.Command Componentry.Program in
def main (line : List String) : IO UInt32 := do
  let invocation := (Invocation.ofLine line).toOption.getD {}
  let files ← gatherFor invocation
  let input ← if readsInput invocation.task then readInput else pure ""
  match run ⟨files, input, fun _ => .unconnected "no network"⟩ line with
  | .error _ =>
    (← IO.getStderr).putStrLn "✗ The command met a value that it cannot handle"
    return Exit.failed.code.toUInt32
  | .ok o =>
    putDown files o.files
    (← IO.getStdout).putStr o.output.text
    let err ← IO.getStderr
    o.remarks.forM err.putStrLn
    return o.exit.code.toUInt32
