/-!
# Double-precision numbers

A double is a sign, a significand below `2 ^ 53` and a power of two, an infinity, or not a number.
Decimal texts and quotients are rounded to the nearest double in exact arithmetic, with ties going
to the even significand, so no operation here depends on the machine's own floating-point unit.
-/

namespace Componentry

/-- A finite double stands for `± significand · 2 ^ exponent`. -/
inductive Double where
  | nan
  | infinite (negative : Bool)
  | finite (negative : Bool) (significand : Nat) (exponent : Int)
  deriving DecidableEq, Repr, Inhabited

namespace Double

def minExponent : Int := -1074

def maxExponent : Int := 971

/-- The quotient of `n` by `d` rounded to the nearest whole number, a half going to the even one. -/
def roundHalfEven (n d : Nat) : Nat :=
  let q := n / d
  let twice := 2 * (n % d)
  if twice < d then q
  else if d < twice then q + 1
  else if q % 2 = 0 then q else q + 1

def scaleDown (num den : Nat) (e : Int) : Nat × Nat :=
  if 0 ≤ e then (num, den * Nat.pow 2 e.toNat) else (num * Nat.pow 2 (-e).toNat, den)

/-- The exponent at which the significand of `num / den` has 53 binary digits, or the least
exponent where the value is too small for that. -/
def exponentFor (num den : Nat) : Int :=
  let guess : Int := (num.log2 : Int) - (den.log2 : Int) - 53
  let (n, d) := scaleDown num den guess
  let exact := if n / d < Nat.pow 2 53 then guess else guess + 1
  max minExponent exact

/-- The double nearest to `num / den`; beyond the greatest finite one it is an infinity. -/
def ofRatio (negative : Bool) (num den : Nat) : Double :=
  if num = 0 then finite negative 0 minExponent
  else
    let e := exponentFor num den
    let (n, d) := scaleDown num den e
    let m := roundHalfEven n d
    let (m, e) := if m = Nat.pow 2 53 then (Nat.pow 2 52, e + 1) else (m, e)
    if maxExponent < e then infinite negative else finite negative m e

def digitCount (n : Nat) : Nat :=
  if n = 0 then 0 else (Nat.toDigits 10 n).length

/-- The double nearest to `± digits · 10 ^ exponent`. Values whose magnitude is beyond every double
are settled by their number of digits alone, so a long exponent costs nothing. -/
def ofDecimal (negative : Bool) (digits : Nat) (exponent : Int) : Double :=
  let magnitude : Int := digitCount digits + exponent
  if digits = 0 ∨ magnitude < -330 then finite negative 0 minExponent
  else if 310 < magnitude then infinite negative
  else if 0 ≤ exponent then ofRatio negative (digits * Nat.pow 10 exponent.toNat) 1
  else ofRatio negative digits (Nat.pow 10 (-exponent).toNat)

def ofInt (i : Int) : Double := ofRatio (i < 0) i.natAbs 1

def integral? : Double → Option Int
  | nan => none
  | infinite _ => none
  | finite negative m e =>
    let magnitude : Option Nat :=
      if 0 ≤ e then some (m * Nat.pow 2 e.toNat)
      else if m % Nat.pow 2 (-e).toNat = 0 then some (m / Nat.pow 2 (-e).toNat) else none
    magnitude.map fun n => if negative then -(n : Int) else n

/-- Equality of numbers: nothing equals what is not a number, and the two zeros are equal. -/
def same : Double → Double → Bool
  | nan, _ => false
  | _, nan => false
  | finite _ 0 _, finite _ 0 _ => true
  | x, y => x == y

def nonzero : Double → Bool
  | finite _ 0 _ => false
  | _ => true

end Double

end Componentry
