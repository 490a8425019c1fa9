import Componentry.Text.Quoted
import Componentry.Value.Access

/-!
# String literals of the script

A literal stands between two equal quotes. Inside, the quote, the backslash, the control characters
and the two separators that end a line are escaped, so a literal never spans lines and ends at the
first quote that no backslash precedes.
-/

namespace Componentry.Script

def ownEscape? (c : Char) : Option (List Char) :=
  match c with
  | '\\' => some ['\\', '\\']
  | '\n' => some ['\\', 'n']
  | '\r' => some ['\\', 'r']
  | '\t' => some ['\\', 't']
  | '\x08' => some ['\\', 'b']
  | '\x0c' => some ['\\', 'f']
  | '\u2028' => some "\\u2028".toList
  | '\u2029' => some "\\u2029".toList
  | _ => none

def numberedEscape (n : Nat) : List Char := '\\' :: 'u' :: Text.hex 4 n

def escaped (quote c : Char) : List Char :=
  match ownEscape? c with
  | some e => e
  | none =>
    if c = quote then ['\\', c]
    else if c.toNat < 0x20 then numberedEscape c.toNat
    else [c]

def quoted (quote : Char) (cs : List Char) : List Char :=
  quote :: (cs.flatMap (escaped quote) ++ [quote])

/-- What one item of a collection contributes where a text is expected: a text of one character
counts as that character, and a single control byte as its number. -/
def escapedItem (quote : Char) : Value → Result (List Char)
  | .str s =>
    match s.toList with
    | [c] => .ok (escaped quote c)
    | _ => Result.fault .mistyped
  | .bytes [b] =>
    if b.toNat < 0x20 then .ok (numberedEscape b.toNat) else Result.fault .mistyped
  | _ => Result.fault .mistyped

/-- A value as a literal: a text, or a collection of single characters. -/
def quotedValue (quote : Char) : Value → Result String
  | .str s => .ok (String.ofList (quoted quote s.toList))
  | v => do
    let inner ← (← v.items).mapM (escapedItem quote)
    return String.ofList (quote :: (inner.flatten ++ [quote]))

end Componentry.Script
