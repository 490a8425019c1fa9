import Componentry.Text.Character
import Componentry.Text.Lines

/-!
# Addresses in brackets

Between brackets a URL gives the address of its host in version 6, with an optional zone behind a
percent sign, or in a version that begins with a `v`. An address of version 6 has eight groups of up
to four hexadecimal digits; one run of groups may be left out, and the last two groups may be
written as an address of version 4.
-/

namespace Componentry.Loading

def isHexDigit (c : Char) : Bool := (Text.hexDigit? c).isSome

/-- Whether a text is one of the four parts of an address of version 4: a number up to 255 without
leading zeros. -/
def isOctet (cs : List Char) : Bool :=
  let value := cs.foldl (fun n c => 10 * n + (c.toNat - 48)) 0
  !cs.isEmpty && cs.all Char.isDigit && cs.length ≤ 3 && (cs == ['0'] || cs.head? != some '0') &&
    value ≤ 255

def isVersion4 (cs : List Char) : Bool :=
  let parts := Text.splitAt '.' cs
  parts.length == 4 && parts.all isOctet

def isGroup (cs : List Char) : Bool := !cs.isEmpty && cs.length ≤ 4 && cs.all isHexDigit

/-- The groups of an address, with one of version 4 at the end counted as two; none if what is
written there is no address. -/
def groups? (cs : List Char) : Option (List (List Char)) :=
  let parts := Text.splitAt ':' cs
  let last := parts.getLast?.getD []
  if parts.length < 3 then none
  else if last.contains '.' then
    if isVersion4 last then some (parts.dropLast ++ [['0'], ['0']]) else none
  else some parts

/-- Whether groups of which one is empty, behind `high` others, leave out a run of groups. -/
def leavesOut (groups : List (List Char)) (high : Nat) : Bool :=
  let before := groups.take high
  let after := groups.drop (high + 1)
  let before := if before == [[]] then [] else before
  let after := if after == [[]] then [] else after
  before.all isGroup && after.all isGroup && before.length + after.length ≤ 7

/-- Whether a text is an address of version 6 without a zone. -/
def isPlainVersion6 (cs : List Char) : Bool :=
  match groups? cs with
  | none => false
  | some groups =>
    let inner := (groups.drop 1).dropLast
    match inner.findIdx? List.isEmpty with
    | some i => inner.count [] == 1 && groups.length ≤ 9 && leavesOut groups (i + 1)
    | none => groups.length == 8 && groups.all isGroup

/-- Whether a text is an address of version 6, with or without a zone. -/
def isVersion6 (cs : List Char) : Bool :=
  let address := cs.takeWhile (· != '%')
  match cs.dropWhile (· != '%') with
  | [] => isPlainVersion6 address
  | _ :: zone => !zone.isEmpty && !zone.contains '%' && isPlainVersion6 address

/-- Whether a text is an address of a later version: a `v`, hexadecimal digits, a point and more. -/
def isLaterVersion (cs : List Char) : Bool :=
  let digits := (cs.drop 1).takeWhile isHexDigit
  match (cs.drop 1).dropWhile isHexDigit with
  | '.' :: _ :: _ => !digits.isEmpty
  | _ => false

def isBracketed (cs : List Char) : Bool :=
  if cs.head? = some 'v' then isLaterVersion cs else isVersion6 cs

end Componentry.Loading
