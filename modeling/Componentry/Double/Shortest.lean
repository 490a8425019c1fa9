import Componentry.Double.Basic

/-!
# The shortest decimal that reads back

The reals that round to a given double form an interval, whose ends belong to it when the
significand is even. For one digit, two digits and so on, the two neighbours of the value on that
decimal grid are tested against the interval; the first grid with a hit gives the digits, the
nearer neighbour wins, and of two equally near ones the even.
-/

namespace Componentry

/-- The number `digits · 10 ^ exponent`, whose digits do not end in zero unless it is zero. -/
structure Decimal where
  digits : Nat
  exponent : Int
  deriving DecidableEq, Repr, Inhabited

namespace Double

structure Fraction where
  num : Nat
  den : Nat

def Fraction.pow (base : Nat) (e : Int) : Fraction :=
  if 0 ≤ e then ⟨Nat.pow base e.toNat, 1⟩ else ⟨1, Nat.pow base (-e).toNat⟩

/-- The number of digits before the decimal point of a positive fraction; for a fraction below one
it is zero or negative and counts the zeros after the point. -/
def Fraction.pointPosition (x : Fraction) : Int :=
  if x.den ≤ x.num then digitCount (x.num / x.den)
  else 1 - (digitCount ((x.den + x.num - 1) / x.num - 1) : Int)

/-- The interval of reals that round to `m · 2 ^ e`, in quarters of `2 ^ e`. -/
def lowerQuarter (m : Nat) (e : Int) : Nat :=
  if m = Nat.pow 2 52 ∧ minExponent < e then 4 * m - 1 else 4 * m - 2

/-- Whether `d · 10 ^ g` rounds to `m · 2 ^ e`. -/
def readsBack (m : Nat) (e : Int) (d : Nat) (g : Int) : Bool :=
  let quarter := Fraction.pow 2 (e - 2)
  let grid := Fraction.pow 10 g
  let here := d * grid.num * quarter.den
  let low := lowerQuarter m e * quarter.num * grid.den
  let high := (4 * m + 2) * quarter.num * grid.den
  if m % 2 = 0 then low ≤ here && here ≤ high else low < here && here < high

def inUnits (m : Nat) (e g : Int) : Fraction :=
  let value := Fraction.pow 2 e
  let grid := Fraction.pow 10 g
  ⟨m * value.num * grid.den, value.den * grid.num⟩

/-- The neighbour on the grid `10 ^ g` that reads back, if one does. -/
def neighbour? (m : Nat) (e g : Int) : Option Nat :=
  let x := inUnits m e g
  let below := x.num / x.den
  let twice := 2 * (x.num % x.den)
  match readsBack m e below g, readsBack m e (below + 1) g with
  | true, false => some below
  | false, true => some (below + 1)
  | true, true =>
    some (if twice < x.den then below
      else if x.den < twice then below + 1
      else if below % 2 = 0 then below else below + 1)
  | false, false => none

def dropZeros : Nat → Decimal → Decimal
  | 0, d => d
  | n + 1, d =>
    if d.digits % 10 = 0 then dropZeros n ⟨d.digits / 10, d.exponent + 1⟩ else d

/-- Tries grids of more and more digits, `left` of them. -/
def searchGrids (m : Nat) (e point : Int) : (left count : Nat) → Decimal
  | 0, count => ⟨((inUnits m e (point - count)).num / (inUnits m e (point - count)).den),
      point - count⟩
  | left + 1, count =>
    match neighbour? m e (point - count) with
    | some d => ⟨d, point - count⟩
    | none => searchGrids m e point left (count + 1)

/-- The shortest decimal that rounds to `m · 2 ^ e`, and of those the nearest. -/
def shortest (m : Nat) (e : Int) : Decimal :=
  if m = 0 then ⟨0, 0⟩
  else
    let value := Fraction.pow 2 e
    let point := Fraction.pointPosition ⟨m * value.num, value.den⟩
    dropZeros 17 (searchGrids m e point 17 1)

end Double

end Componentry
