import Componentry.Failure

/-!
# Writing values as JSON

A value is written front to back. Where it holds something that the format does not have, or a
number of too many digits, writing stops there, and what has been written by then remains: a `Draft`
is a text together with what stopped it. A `Format` says how far nested values are broken over
lines, which characters are escaped, and what stands in for values that the format does not have.
-/

namespace Componentry.Json

structure Draft where
  text : String
  /-- What writing stopped at; nothing if the text is complete. -/
  stop : Option Fault
  deriving DecidableEq, Repr, Inhabited

namespace Draft

def done (s : String) : Draft := ⟨s, none⟩

def stopped (f : Fault) : Draft := ⟨"", some f⟩

/-- One text and then another, unless the first stopped. -/
def followedBy (d e : Draft) : Draft :=
  match d.stop with
  | none => ⟨d.text ++ e.text, e.stop⟩
  | some _ => d

/-- An item of a list behind a text. The text is written together with a number, so it is not there
if the number cannot be written. -/
def behind (before : String) (item : Value) (d : Draft) : Draft :=
  match item, d.stop with
  | .int _, some _ => d
  | _, _ => (done before).followedBy d

def result (d : Draft) : Result String :=
  match d.stop with
  | none => .ok d.text
  | some f => Result.fault f

end Draft

structure Format where
  asciiOnly : Bool
  broken : Bool
  /-- The text in the place of a value that the format does not have. -/
  standIn : Value → Except Fault String

namespace Format

/-- One line, ASCII only; a text that displays the value stands in for what the format lacks. -/
def line : Format :=
  ⟨true, false, fun v => match v.display with
    | some s => .ok s
    | none => .error .malformed⟩

/-- Broken over lines with two blanks for each level; nothing stands in for what the format
lacks. -/
def document : Format := ⟨false, true, fun _ => .error .mistyped⟩

def gap (f : Format) (level : Nat) : String :=
  if f.broken then "\n" ++ Text.repeated "  " level else ""

def separator (f : Format) (level : Nat) : String :=
  if f.broken then "," ++ f.gap level else ", "

end Format

/-- The escape of a character by its number; beyond four digits it takes a pair of escapes. -/
def unicodeEscape (c : Char) : List Char :=
  let n := c.toNat
  if n < 0x10000 then '\\' :: 'u' :: Text.hex 4 n
  else
    let offset := n - 0x10000
    '\\' :: 'u' :: Text.hex 4 (0xD800 + offset / 0x400) ++
      '\\' :: 'u' :: Text.hex 4 (0xDC00 + offset % 0x400)

def escapedChar (asciiOnly : Bool) (c : Char) : List Char :=
  if c = '"' ∨ c = '\\' then ['\\', c]
  else if c = '\n' then ['\\', 'n']
  else if c = '\r' then ['\\', 'r']
  else if c = '\t' then ['\\', 't']
  else if c = '\x0c' then ['\\', 'f']
  else if c = '\x08' then ['\\', 'b']
  else if c.toNat < 0x20 ∨ (asciiOnly ∧ 0x7f ≤ c.toNat) then unicodeEscape c
  else [c]

def quotedText (asciiOnly : Bool) (s : String) : String :=
  String.ofList ('"' :: (s.toList.flatMap (escapedChar asciiOnly) ++ ['"']))

def numeral (i : Int) : Except Fault String :=
  match Text.integer i with
  | some s => .ok s
  | none => .error .malformed

/-- The text of a value that is neither a list nor a map. -/
def scalar (f : Format) : Value → Except Fault String
  | .null => .ok "null"
  | .bool true => .ok "true"
  | .bool false => .ok "false"
  | .int i => numeral i
  | .float x => .ok (x.written .document)
  | .str s => .ok (quotedText f.asciiOnly s)
  | v => do return quotedText f.asciiOnly (← f.standIn v)

/-- The name that a key of a map is written as. -/
def nameOf : Value → Except Fault String
  | .str s => .ok s
  | .null => .ok "null"
  | .bool true => .ok "true"
  | .bool false => .ok "false"
  | .int i => numeral i
  | .float x => .ok (x.written .document)
  | _ => .error .mistyped

def writeScalar (f : Format) (v : Value) : Draft :=
  match scalar f v with
  | .ok s => .done s
  | .error e => .stopped e

mutual

def writeValue (f : Format) (level : Nat) : Value → Draft
  | .list items => writeItems f level items
  | .tuple items => writeItems f level items
  | .map entries =>
    match entries with
    | [] => .done "\x7b\x7d"
    | _ :: _ =>
      ((Draft.done ("\x7b" ++ f.gap (level + 1))).followedBy
        (writeEntries f (level + 1) "" entries)).followedBy (.done (f.gap level ++ "\x7d"))
  | v => writeScalar f v

def writeItems (f : Format) (level : Nat) : List Value → Draft
  | [] => .done "[]"
  | x :: xs =>
    (((writeValue f (level + 1) x).behind ("[" ++ f.gap (level + 1)) x).followedBy
      (writeRest f (level + 1) xs)).followedBy (.done (f.gap level ++ "]"))

def writeRest (f : Format) (level : Nat) : List Value → Draft
  | [] => .done ""
  | x :: xs =>
    ((writeValue f level x).behind (f.separator level) x).followedBy (writeRest f level xs)

/-- The entries of a map, the first after what is given and the others after a separator. A key is
checked before anything of its entry is written. -/
def writeEntries (f : Format) (level : Nat) (before : String) : List (Value × Value) → Draft
  | [] => .done ""
  | (k, v) :: es =>
    match nameOf k with
    | .error e => .stopped e
    | .ok name =>
      ((Draft.done (before ++ quotedText f.asciiOnly name ++ ": ")).followedBy
        (writeValue f level v)).followedBy (writeEntries f level (f.separator level) es)

end

def write (f : Format) (v : Value) : Draft := writeValue f 0 v

/-- A value on one line. It cannot be written if a key is not fit for a name, or a number has too
many digits. -/
def writeLine (v : Value) : Result String := (write .line v).result

end Componentry.Json
