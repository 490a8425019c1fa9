import Componentry.Text.Numeral
import Componentry.Text.Quoted

/-!
# Refusals of the file system

Each refusal has a number and a wording; its text names the path that was asked for.
-/

namespace Componentry

inductive SystemError where
  | notFound
  | alreadyThere
  | notADirectory
  | isADirectory
  | nameTooLong
  deriving DecidableEq, Repr, Inhabited

namespace SystemError

def number : SystemError → Nat
  | notFound => 2
  | alreadyThere => 17
  | notADirectory => 20
  | isADirectory => 21
  | nameTooLong => 36

def wording : SystemError → String
  | notFound => "No such file or directory"
  | alreadyThere => "File exists"
  | notADirectory => "Not a directory"
  | isADirectory => "Is a directory"
  | nameTooLong => "File name too long"

def message (e : SystemError) (path : String) : String :=
  "[Errno " ++ Text.natural e.number ++ "] " ++ e.wording ++ ": " ++ Text.quoted path

end SystemError

end Componentry
