import Componentry.Text.Lines

/-!
# File names of components

The stem of a component's file name consists of the words of the component's name in lower case
with hyphens between them. Words are runs of ASCII letters and digits; a word also ends where an
upper-case letter follows a lower-case letter or a digit.
-/

namespace Componentry.Naming

def isWordChar (c : Char) : Bool := c.isAlpha || c.isDigit

def startsWord (before c : Char) : Bool := (before.isLower || before.isDigit) && c.isUpper

/-- The words of a text; `before` is the preceding character if it belongs to the word that is
being collected in `word`, last character first. -/
def collectWords (word : List Char) : List Char → List (List Char)
  | [] => if word.isEmpty then [] else [word.reverse]
  | c :: rest =>
    match word with
    | [] => if isWordChar c then collectWords [c] rest else collectWords [] rest
    | before :: _ =>
      if !isWordChar c then word.reverse :: collectWords [] rest
      else if startsWord before c then word.reverse :: collectWords [c] rest
      else collectWords (c :: word) rest

def words (name : List Char) : List (List Char) := collectWords [] name

def fileStem (name : String) : String :=
  match words name.toList with
  | [] => "component"
  | ws => Text.join "-" (ws.map fun w => String.ofList (w.map Char.toLower))

end Componentry.Naming
