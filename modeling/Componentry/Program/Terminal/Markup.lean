import Componentry.Command.Outcome
import Componentry.Program.Terminal.Column
import Componentry.Program.Terminal.Emoji
import Componentry.Program.Terminal.Style
import Componentry.Text.Letter

/-!
# Markup of the terminal

A text for the terminal may hold tags in brackets: an opening tag names a style or an action, with
parameters behind an equals sign, and a closing tag begins with a slash. Where the text is shown its
tags are gone and its emoji codes are replaced. A backslash before a tag makes it plain text, and
pairs of backslashes there stand for one each. A closing tag has to close an open tag of its name,
or the last open tag if it has no name; open tags need not be closed.

`escaped` puts backslashes before all tags, so that a text can be put into markup; but a backslash
at its very end stays doubled unless a tag follows.

The console of the program shows markup so.
-/

namespace Componentry.Program

namespace Terminal

/-- A tag without its brackets. -/
structure Tag where
  name : List Char
  parameters : Option (List Char)

inductive Span where
  | text (cs : List Char)
  | tag (t : Tag)

def beginsTag (c : Char) : Bool :=
  ('a' ≤ c && c ≤ 'z') || c = '#' || c = '/' || c = '@'

def tagAt? : List Char → Option (List Char)
  | '[' :: c :: rest =>
    let inside := fun c => c != '[' && c != ']'
    match rest.dropWhile inside with
    | ']' :: _ => if beginsTag c then some (c :: rest.takeWhile inside) else none
    | _ => none
  | _ => none

/-- The number of backslashes at the start of a text and what stands in the brackets of the tag
behind them. -/
def markAt? (cs : List Char) : Option (Nat × List Char) :=
  let backslash := fun c => c == '\\'
  (tagAt? (cs.dropWhile backslash)).map fun inside => ((cs.takeWhile backslash).length, inside)

def Tag.ofInside (inside : List Char) : Tag :=
  match inside.dropWhile (· != '=') with
  | _ :: parameters => ⟨inside.takeWhile (· != '='), some parameters⟩
  | [] => ⟨inside, none⟩

def textSpan (cs : List Char) : List Span := if cs.isEmpty then [] else [.text cs]

def spansOfMark (backslashes : Nat) (inside : List Char) : List Span :=
  textSpan (List.replicate (backslashes / 2) '\\') ++
    [if backslashes % 2 = 0 then .tag (.ofInside inside) else .text ('[' :: inside ++ [']'])]

/-- The pieces of markup behind its first `skip` characters. `read` is the text before it that is
not yet a piece, last character first. -/
def spans (skip : Nat) (read : List Char) : List Char → List Span
  | [] => textSpan read.reverse
  | c :: rest =>
    match skip with
    | n + 1 => spans n read rest
    | 0 =>
      match markAt? (c :: rest) with
      | some (backslashes, inside) =>
        textSpan read.reverse ++ spansOfMark backslashes inside ++
          spans (backslashes + inside.length + 1) [] rest
      | none => spans 0 (c :: read) rest

def escapeTags (skip : Nat) : List Char → List Char
  | [] => []
  | c :: rest =>
    match skip with
    | n + 1 => escapeTags n rest
    | 0 =>
      match markAt? (c :: rest) with
      | some (backslashes, inside) =>
        List.replicate (2 * backslashes + 1) '\\' ++ '[' :: inside ++ ']' ::
          escapeTags (backslashes + inside.length + 1) rest
      | none => c :: escapeTags 0 rest

def escaped (s : String) : String :=
  let cs := escapeTags 0 s.toList
  let single := "\\".toList.isSuffixOf cs && !"\\\\".toList.isSuffixOf cs
  String.ofList (if single then cs ++ ['\\'] else cs)

/-- A text without the backslashes that stand right before an opening bracket. -/
def plainBrackets : List Char → List Char
  | '\\' :: '[' :: rest => '[' :: plainBrackets rest
  | c :: rest => c :: plainBrackets rest
  | [] => []

def isSimpleLiteral (cs : List Char) : Bool :=
  let unsigned := match cs with
    | '-' :: rest => rest
    | '+' :: rest => rest
    | rest => rest
  let isNumber := !unsigned.isEmpty && unsigned.all Char.isDigit &&
    (unsigned.head? != some '0' || unsigned.all (· == '0'))
  let isQuoted := match cs with
    | q :: rest => (q = '"' || q = '\'') && rest.getLast? = some q &&
      rest.dropLast.all fun c => c != q && c != '\\' && c != '\n'
    | [] => false
  isNumber || isQuoted || ["None", "True", "False"].contains (String.ofList cs)

/-- Whether the parameters of an action can be read: a name with nothing or with values in
parentheses behind it, or one value. -/
def isAction (parameters : List Char) : Bool :=
  let isName := fun c => Text.isLetter c || (Text.decimalValue? c).isSome || c = '_' || c = '.'
  let cs := Text.trim parameters
  match cs.dropWhile isName with
  | [] => true
  | '(' :: rest =>
    let inside := rest.dropLast
    rest.getLast? = some ')' &&
      (inside.isEmpty || (Text.splitAt ',' inside).all (isSimpleLiteral <| Text.trim ·))
  | _ => isSimpleLiteral cs

/-- The open tags without the last one that a closing tag of a name closes; none if there is none.
The last open tag comes first. -/
def closeTag (name : List Char) : List Tag → Option (Tag × List Tag)
  | [] => none
  | t :: rest =>
    if t.name = name then some (t, rest)
    else (closeTag name rest).map fun r => (r.1, t :: r.2)

/-- The open tags behind a closing tag with a name or without. -/
def afterClosing (name : List Char) (tags : List Tag) : Except Fault (List Tag) := do
  let closed ← match Text.trim name, tags with
    | [], [] => pure none
    | [], t :: rest => pure (some (t, rest))
    | name, tags => do pure (closeTag (← normalStyle name) tags)
  match closed with
  | none => .error .misnested
  | some (t, rest) =>
    if t.name.head? = some '@' && !(t.parameters.all isAction) then .error .misnested
    else return rest

def afterTag (tags : List Tag) (t : Tag) : Except Fault (List Tag) := do
  match t.name with
  | '/' :: name => afterClosing name tags
  | name => return { t with name := ← normalStyle name } :: tags

def textOf (tags : List Tag) : List Span → Except Fault (List Char)
  | [] => .ok []
  | .text cs :: rest => do return replaceCodes 0 (plainBrackets cs) ++ (← textOf tags rest)
  | .tag t :: rest => do textOf (← afterTag tags t) rest

/-- The control characters that a terminal acts on without showing them. -/
def isSilent (c : Char) : Bool := [7, 8, 11, 12, 13].contains c.toNat

def shown (markup : String) : Except Fault String := do
  let cs ← textOf [] (spans 0 [] markup.toList)
  return String.ofList (withoutTabs (cs.filter (!isSilent ·)))

end Terminal

scoped instance console : Console := ⟨Terminal.shown, Terminal.escaped⟩

end Componentry.Program
