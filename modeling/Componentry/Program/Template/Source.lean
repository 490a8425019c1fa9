import Componentry.Program.Template.Token
import Componentry.Text.Lines

/-!
# Template sources

A template source is a sequence of pieces: text, outputs between double braces, and tags between a
brace and a percent sign; what stands between a brace and a number sign is a comment. Every line
ends with one line feed, and one line feed at the end of the source is dropped.

Blanks between the start of a line and a tag or a comment are dropped as well, unless a plus sign
follows the opening mark. A minus sign behind an opening mark drops all blanks before it, and a
minus sign before a closing mark all blanks behind it. A closing mark counts only where no bracket
is open. A comment has to be closed, unless the source ends right behind its opening mark.
-/

namespace Componentry.Program.Template

inductive Piece where
  | text (s : String)
  | inside (e : Enclosure) (tokens : List Token)
  | broken (p : Problem)
  deriving Inhabited

inductive Scan where
  | text (read : List Char)
  /-- In a comment, of which something has been read if `begun`. -/
  | comment (begun : Bool)
  /-- Inside marks, with the brackets to come that close the open ones, innermost first. -/
  | inside (e : Enclosure) (brackets : List Char) (behindPoint : Bool) (read : List Token)

/-- Where the scanner stands behind the opening mark at the start of a text, if there is one. -/
def opening? : List Char → Option Scan
  | '\x7b' :: '\x7b' :: _ => some (.inside .output [] false [])
  | '\x7b' :: '%' :: _ => some (.inside .tag [] false [])
  | '\x7b' :: '#' :: _ => some (.comment false)
  | _ => none

def signBehind? (cs : List Char) : Option Char :=
  (cs.drop 2).head?.filter fun c => c = '-' || c = '+'

/-- A text, held last character first, without the blanks of its last line if the line holds nothing
else. `first` tells that the source begins with the text. -/
def dropIndent (first : Bool) (read : List Char) : List Char :=
  let line := read.takeWhile (· != '\n')
  let before := read.dropWhile (· != '\n')
  if Text.allBlank line && (first || !before.isEmpty) then before else read

/-- A text before an opening mark without the blanks that the mark drops, held last character
first. -/
def beforeMark (first : Bool) (mark : Scan) (sign : Option Char) (read : List Char) : List Char :=
  match mark, sign with
  | _, some '-' => read.dropWhile Text.isBlank
  | _, some _ => read
  | .inside .output _ _ _, none => read
  | _, none => dropIndent first read

def textPiece (read : List Char) : List Piece :=
  if read.isEmpty then [] else [.text (String.ofList read.reverse)]

/-- The length of a closing mark at the start of a text, with the sign before it and the blanks that
the sign drops. A plus sign stands before some marks only. -/
def closingLength? (mark : List Char) (plus : Bool) (cs : List Char) : Option Nat :=
  match cs with
  | '-' :: rest =>
    if mark.isPrefixOf rest then
      some (1 + mark.length + ((rest.drop mark.length).takeWhile Text.isBlank).length)
    else none
  | '+' :: rest => if plus && mark.isPrefixOf rest then some (1 + mark.length) else none
  | cs => if mark.isPrefixOf cs then some mark.length else none

def commentEnd? (cs : List Char) : Option Nat := closingLength? ['#', '\x7d'] true cs

def enclosureEnd? (e : Enclosure) (cs : List Char) : Option Nat :=
  closingLength? e.closing (e = .tag) cs

def bracketsBehind (brackets : List Char) : Token → Except Problem (List Char)
  | .symbol "(" => .ok (')' :: brackets)
  | .symbol "[" => .ok (']' :: brackets)
  | .symbol "\x7b" => .ok ('\x7d' :: brackets)
  | .symbol ")" => close ')'
  | .symbol "]" => close ']'
  | .symbol "\x7d" => close '\x7d'
  | _ => .ok brackets
where
  close (bracket : Char) : Except Problem (List Char) :=
    match brackets with
    | [] => .error (.unmatched bracket none)
    | b :: rest => if b = bracket then .ok rest else .error (.unmatched bracket (some b))

def Token.isPoint : Token → Bool
  | symbol s => s == "."
  | _ => false

/-- The pieces of the rest of a source behind its first `skip` characters. `first` tells that the
text of the source's start is being read, and `place` is the number of characters before the
rest. -/
def scan (first : Bool) (place skip : Nat) : Scan → List Char → List Piece
  | .text read, [] => textPiece read
  | .comment begun, [] => if begun then [.broken .unfinishedComment] else []
  | .inside e _ _ read, [] => [.inside e (.ended :: read).reverse]
  | s, c :: rest =>
    match skip, s with
    | n + 1, s => scan first (place + 1) n s rest
    | 0, .text read =>
      match opening? (c :: rest) with
      | some mark =>
        let sign := signBehind? (c :: rest)
        textPiece (beforeMark first mark sign read) ++
          scan false (place + 1) (if sign.isSome then 2 else 1) mark rest
      | none => scan first (place + 1) 0 (.text (c :: read)) rest
    | 0, .comment _ =>
      match commentEnd? (c :: rest) with
      | some n => scan false (place + 1) (n - 1) (.text []) rest
      | none => scan false (place + 1) 0 (.comment true) rest
    | 0, .inside e brackets behindPoint read =>
      match if brackets.isEmpty then enclosureEnd? e (c :: rest) else none with
      | some n =>
        .inside e (.close e :: read).reverse :: scan false (place + 1) (n - 1) (.text []) rest
      | none =>
        if Text.isBlank c then scan false (place + 1) 0 (.inside e brackets false read) rest
        else
          let broken := fun p => [Piece.inside e (.broken p :: read).reverse]
          match tokenAt? behindPoint (c :: rest) with
          | none => broken (.unexpectedCharacter c place)
          | some (token, n) =>
            match bracketsBehind brackets token with
            | .error p => broken p
            | .ok brackets =>
              scan false (place + 1) (n - 1)
                (.inside e brackets token.isPoint (token :: read)) rest

def normalized (source : List Char) : List Char :=
  let cs := Text.universalNewlines source
  if cs.getLast? = some '\n' then cs.dropLast else cs

/-- The pieces with each problem that comes right behind tokens held as a token behind them too,
where it is met by what looks past a closing mark. -/
def heldBehindTokens : List Piece → List Piece
  | .inside e tokens :: .broken p :: rest =>
    .inside e (tokens ++ [.broken p]) :: .broken p :: heldBehindTokens rest
  | p :: rest => p :: heldBehindTokens rest
  | [] => []

def pieces (source : List Char) : List Piece :=
  heldBehindTokens (scan true 0 0 (.text []) (normalized source))

end Componentry.Program.Template
