import Componentry.Failure
import Componentry.Files.Tree
import Componentry.Log.Record

/-!
# Outcomes of commands

A command leaves an exit code, what it wrote to standard output, its notices and warnings, the files
and the log. Notices, warnings and tables are written as markup and kept as a console shows them. An
error that the library declares ends the command with a notice and keeps what had happened by then;
a fault leaves no outcome, and markup that the console cannot show is one.
-/

namespace Componentry

class Console where
  /-- What markup looks like where it is shown. -/
  shown : (markup : String) → Except Fault String
  /-- Markup that stands for a text. -/
  escaped : (text : String) → String

namespace Console

variable [Console]

def display (markup : String) : Result String := (shown markup).mapError .fault

end Console

/-- The message of an error that a command reports; it reports neither faults nor errors of
generation, which have a report of their own. -/
def Failure.reported? : Failure → Option String
  | fault _ => none
  | generation _ => none
  | f => f.message?

namespace Command

inductive Exit where
  | done
  | failed
  | warned
  | misused
  deriving DecidableEq, Repr, Inhabited

def Exit.code : Exit → Nat
  | done => 0
  | failed => 1
  | warned => 2
  | misused => 2

inductive Output where
  | nothing
  | usage
  | code (text : String)
  /-- Settings with their values as they are displayed, and the warnings, each behind a sign. -/
  | settings (rows : List (String × String)) (warnings : List String)
  deriving DecidableEq, Repr, Inhabited

structure Outcome where
  exit : Exit
  output : Output
  notices : List String
  /-- The lines of the warnings, each of which has a bullet in front of its first line. -/
  warnings : List String
  metadata : List (String × String)
  files : FileTree
  log : List Log.Record
  deriving Inhabited

namespace Outcome

variable [Console]

def initial (files : FileTree) : Outcome := ⟨.done, .nothing, [], [], [], files, []⟩

def logged (o : Outcome) (records : List Log.Record) : Outcome := { o with log := o.log ++ records }

def noticed (o : Outcome) (notice : String) : Result Outcome := do
  return { o with notices := o.notices ++ [← Console.display notice] }

def refused (o : Outcome) (notice : String) : Result Outcome := do
  return { ← o.noticed notice with exit := .failed }

def warned (o : Outcome) (warnings : List String) : Result Outcome := do
  let shown ← Console.display (Text.join "\n" (warnings.map ("• " ++ Console.escaped ·)))
  return { o with
    warnings := if warnings.isEmpty then [] else (Text.lines shown.toList).map String.ofList }

def after {α : Type} (o : Outcome) (step : Result α) (next : α → Result Outcome) : Result Outcome :=
  match step with
  | .ok a => next a
  | .error f =>
    match f.reported? with
    | some message => o.refused ("[red]✗ Error:[/red] " ++ Console.escaped message)
    | none => .error f

end Outcome

def shownTable [Console] (rows : List (String × String)) : Result (List (String × String)) := do
  let left ← rows.mapM fun r => Console.display r.1
  let right ← rows.mapM fun r => Console.display r.2
  return left.zip right

end Command

end Componentry
