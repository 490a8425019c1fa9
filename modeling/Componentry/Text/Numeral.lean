import Componentry.Text.Character

/-!
# Whole numbers as text

A whole number is written in decimal digits without leading zeros, after a minus sign if it is
negative. It is read with any sign, with leading zeros, in the digits of any script, with single
underscores between digits, and with blanks around it other than the information separators. A
number of too many digits is neither written nor read.
-/

namespace Componentry.Text

def digits (n : Nat) : List Char := Nat.toDigits 10 n

def natural (n : Nat) : String := String.ofList (digits n)

/-- A whole number in digits, however many they are. -/
def decimal (i : Int) : String :=
  if i < 0 then "-" ++ natural i.natAbs else natural i.natAbs

def digitLimit : Nat := 4300

/-- A whole number as text; there is none if it has too many digits. -/
def integer (i : Int) : Option String :=
  if digitLimit < (digits i.natAbs).length then none else some (decimal i)

/-- The values of the digits of a numeral, with single underscores between them. -/
def readDigits : List Char → Option (List Nat)
  | [] => none
  | [c] => (decimalValue? c).map ([·])
  | c :: '_' :: rest => do return (← decimalValue? c) :: (← readDigits rest)
  | c :: rest => do return (← decimalValue? c) :: (← readDigits rest)

def ofDigits (ds : List Nat) : Nat := ds.foldl (fun n d => 10 * n + d) 0

/-- The natural number that a numeral without a sign stands for. -/
def readNatural (cs : List Char) : Option Nat := do
  let ds ← readDigits cs
  if digitLimit < ds.length then none else some (ofDigits ds)

def isNumeralBlank (c : Char) : Bool := isBlank c && !(0x1c ≤ c.toNat && c.toNat ≤ 0x1f)

/-- A text without the blanks that may stand around a numeral. -/
def trimNumeral (cs : List Char) : List Char :=
  ((cs.dropWhile isNumeralBlank).reverse.dropWhile isNumeralBlank).reverse

def readInteger (s : String) : Option Int :=
  match trimNumeral s.toList with
  | '-' :: cs => (readNatural cs).map fun n => -(n : Int)
  | '+' :: cs => (readNatural cs).map fun n => (n : Int)
  | cs => (readNatural cs).map fun n => (n : Int)

end Componentry.Text
