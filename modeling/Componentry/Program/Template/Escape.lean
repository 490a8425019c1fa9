import Componentry.Program.Template.Problem
import Componentry.Text.Character

/-!
# Escapes in the texts of templates

Inside the quotes of a text a backslash begins an escape: a control character by a letter, a
character by its number in octal or hexadecimal digits, or a line end that is left out. A backslash
before any other character of ASCII stays. Other characters are written by their number first, so a
backslash before one of them stays as well, with the number behind it.
-/

namespace Componentry.Program.Template

/-- A character beyond ASCII by its number, without a backslash in front. -/
def numbered (c : Char) : List Char :=
  let n := c.toNat
  if n < 0x100 then 'x' :: Text.hex 2 n
  else if n < 0x10000 then 'u' :: Text.hex 4 n
  else 'U' :: Text.hex 8 n

def escapedLetter? (c : Char) : Option (List Char) :=
  match c with
  | '\n' => some []
  | '\\' => some ['\\']
  | '\'' => some ['\'']
  | '"' => some ['"']
  | 'a' => some [Char.ofNat 7]
  | 'b' => some [Char.ofNat 8]
  | 'f' => some [Char.ofNat 12]
  | 'n' => some ['\n']
  | 'r' => some ['\r']
  | 't' => some ['\t']
  | 'v' => some [Char.ofNat 11]
  | _ => none

def numberIn (base : Nat) (ds : List Char) : Nat :=
  ds.foldl (fun n c => base * n + (Text.hexDigit? c).getD 0) 0

def hexNumber? (width : Nat) (cs : List Char) : Option Nat :=
  let ds := cs.take width
  if ds.length < width || ds.any (Text.hexDigit? · |>.isNone) then none
  else some (numberIn 16 ds)

/-- The character with a number; half of a pair is none by itself. -/
def ofNumber (n : Nat) : Char :=
  if 0xD800 ≤ n ∧ n < 0xE000 then Char.ofNat 0xFFFD else Char.ofNat n

/-- The character with the number that `width` hexadecimal digits at the start of a text give. -/
def byNumber (width : Nat) (form : String) (cs : List Char) :
    Except EscapeProblem (List Char) :=
  match hexNumber? width cs with
  | none => .error (.truncated form)
  | some n => if 0x10FFFF < n then .error .beyond else .ok [ofNumber n]

/-- The character that two escapes by four digits give as the halves of a pair, given the text
behind the first letter. -/
def byHalves? (cs : List Char) : Option Char :=
  match hexNumber? 4 cs, cs.drop 4 with
  | some high, '\\' :: 'u' :: rest =>
    match hexNumber? 4 rest with
    | some low =>
      if 0xD800 ≤ high ∧ high < 0xDC00 ∧ 0xDC00 ≤ low ∧ low < 0xE000 then
        some (Char.ofNat (0x10000 + (high - 0xD800) * 0x400 + (low - 0xDC00)))
      else none
    | none => none
  | _, _ => none

/-- What an escape stands for, given the text behind its backslash, and how many characters of that
text belong to it. -/
def escapeAt : List Char → Except EscapeProblem (List Char × Nat)
  | [] => .ok (['\\'], 0)
  | c :: rest =>
    match escapedLetter? c with
    | some cs => .ok (cs, 1)
    | none =>
      let octal := ((c :: rest).take 3).takeWhile fun d => '0' ≤ d && d ≤ '7'
      if !octal.isEmpty then .ok ([Char.ofNat (numberIn 8 octal)], octal.length)
      else if c = 'x' then do return (← byNumber 2 "\\xXX" rest, 3)
      else if c = 'u' then
        match byHalves? rest with
        | some d => .ok ([d], 11)
        | none => do return (← byNumber 4 "\\uXXXX" rest, 5)
      else if c = 'U' then do return (← byNumber 8 "\\UXXXXXXXX" rest, 9)
      else if c = 'N' then .error .nameless
      else if c.toNat < 128 then .ok (['\\', c], 1)
      else .ok ('\\' :: numbered c, 1)

def readEscapes (skip : Nat) : List Char → Except EscapeProblem (List Char)
  | [] => .ok []
  | c :: rest =>
    match skip with
    | n + 1 => readEscapes n rest
    | 0 => do
      if c = '\\' then
        let (cs, length) ← escapeAt rest
        return cs ++ (← readEscapes length rest)
      else return c :: (← readEscapes 0 rest)

end Componentry.Program.Template
