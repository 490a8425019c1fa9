import Componentry.Text.Character
import Componentry.Value.Access

/-!
# Formatting generated code

Formatted code has no blanks at the ends of its lines, no two blank lines in a row, and no blank
line at its start or its end. Every line is ended by the same line ending.
-/

namespace Componentry.Formatting

/-- Lines without those that are blank behind a blank line. -/
def squeezed (afterBlank : Bool) : List (List Char) → List (List Char)
  | [] => []
  | l :: ls =>
    if l.isEmpty then
      if afterBlank then squeezed true ls else l :: squeezed true ls
    else l :: squeezed false ls

/-- Lines without the blank ones at the end. -/
def dropBlankEnd (ls : List (List Char)) : List (List Char) :=
  (ls.reverse.dropWhile List.isEmpty).reverse

def lines (code : List Char) : List (List Char) :=
  dropBlankEnd (squeezed true ((Text.lines code).map Text.trimEnd))

/-- Lines with an ending behind each; without lines there is one ending. -/
def ended (ending : List Char) : List (List Char) → List Char
  | [] => ending
  | [l] => l ++ ending
  | l :: ls => l ++ ending ++ ended ending ls

def format (ending : String) (code : String) : String :=
  String.ofList (ended ending.toList (lines code.toList))

def formatWith (ending : Value) (code : String) : Result String := do
  return format (← ending.text) code

end Componentry.Formatting
