import Componentry.Text.Numeral
import Componentry.Text.Quoted

/-!
# Text from bytes

Bytes are a text if they are well-formed UTF-8. Otherwise the first ill-formed sequence is found: a
byte that begins no character, a character whose next byte does not continue it, or a character that
the end of the bytes cuts off.
-/

namespace Componentry.Text

inductive IllFormed where
  | badStart
  | badContinuation
  | cutOff
  deriving DecidableEq, Repr, Inhabited

/-- An ill-formed sequence: its first byte, its position and its length. -/
structure DecodingError where
  problem : IllFormed
  first : UInt8
  position : Nat
  length : Nat
  deriving DecidableEq, Repr, Inhabited

/-- The ranges in which the bytes behind a first byte have to lie; none if the byte begins no
character of several bytes. -/
def continuations (b : Nat) : List (Nat × Nat) :=
  let any := (0x80, 0xBF)
  if 0xC2 ≤ b ∧ b ≤ 0xDF then [any]
  else if b = 0xE0 then [(0xA0, 0xBF), any]
  else if b = 0xED then [(0x80, 0x9F), any]
  else if 0xE1 ≤ b ∧ b ≤ 0xEF then [any, any]
  else if b = 0xF0 then [(0x90, 0xBF), any, any]
  else if 0xF1 ≤ b ∧ b ≤ 0xF3 then [any, any, any]
  else if b = 0xF4 then [(0x80, 0x8F), any, any]
  else []

/-- The first ill-formed sequence. `first` is the byte that began the current character, `read` the
number of its bytes that have been read, and `awaited` the ranges of those that are to come. -/
def findIllFormed (first : UInt8) (read : Nat) (awaited : List (Nat × Nat)) (position : Nat) :
    List UInt8 → Option DecodingError
  | [] => if awaited.isEmpty then none else some ⟨.cutOff, first, position - read, read⟩
  | b :: rest =>
    match awaited with
    | [] =>
      if b.toNat < 0x80 then findIllFormed b 0 [] (position + 1) rest
      else
        match continuations b.toNat with
        | [] => some ⟨.badStart, b, position, 1⟩
        | ranges => findIllFormed b 1 ranges (position + 1) rest
    | range :: ranges =>
      if range.1 ≤ b.toNat ∧ b.toNat ≤ range.2 then
        findIllFormed first (read + 1) ranges (position + 1) rest
      else some ⟨.badContinuation, first, position - read, read⟩

def IllFormed.wording : IllFormed → String
  | badStart => "invalid start byte"
  | badContinuation => "invalid continuation byte"
  | cutOff => "unexpected end of data"

def DecodingError.message (e : DecodingError) : String :=
  let place :=
    if e.length = 1 then
      "byte 0x" ++ String.ofList (hex 2 e.first.toNat) ++ " in position " ++ natural e.position
    else
      "bytes in position " ++ natural e.position ++ "-" ++ natural (e.position + e.length - 1)
  "'utf-8' codec can't decode " ++ place ++ ": " ++ e.problem.wording

def decode (bytes : ByteArray) : Except DecodingError String :=
  match String.fromUTF8? bytes with
  | some s => .ok s
  | none => .error ((findIllFormed 0 0 [] 0 bytes.data.toList).getD default)

end Componentry.Text
