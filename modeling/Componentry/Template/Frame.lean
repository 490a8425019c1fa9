import Componentry.Text.Lines
import Componentry.Text.Character

/-!
# The frames of generated scripts

A script is framed by one of two templates: one puts it into a file with markup, the other leaves it
a plain script. Both put it below a header, if one is given. In a plain script every line of the
header that is not blank is made a comment by a marker in front of it.

A frame is a template source of one form, and `fill` says what it stands for.
-/

namespace Componentry.Template

def comment (marker s : String) : String :=
  Text.join "\n" ((Text.lines s.toList).map fun line =>
    if Text.allBlank line then String.ofList line else marker ++ " " ++ String.ofList line)

structure Frame where
  name : String
  beforeHeader : String
  /-- Whether the lines of the header become comments. -/
  commented : Bool
  afterHeader : String
  beforeScript : String
  afterScript : String
  deriving DecidableEq, Repr, Inhabited

namespace Frame

def markup : Frame := ⟨"component.vue", "<!-- ", false, " -->\n", "<script>\n", "\n</script>"⟩

def plain : Frame := ⟨"component.js", "", true, "\n", "", ""⟩

def all : List Frame := [markup, plain]

/-- The source of a frame. The line feed at its end is not part of what it stands for. -/
def source (f : Frame) : String :=
  "\x7b% if header %\x7d" ++ f.beforeHeader ++
    (if f.commented then "\x7b\x7b header | comment \x7d\x7d" else "\x7b\x7b header \x7d\x7d") ++
    f.afterHeader ++ "\x7b% endif %\x7d" ++
    f.beforeScript ++ "\x7b\x7b script \x7d\x7d" ++ f.afterScript ++ "\n"

/-- A script in a frame, below a header if there is one. -/
def fill (f : Frame) (header : Option String) (script : String) : String :=
  let above := match header with
    | some h => f.beforeHeader ++ (if f.commented then comment "//" h else h) ++ f.afterHeader
    | none => ""
  above ++ (f.beforeScript ++ script ++ f.afterScript)

end Frame

end Componentry.Template
