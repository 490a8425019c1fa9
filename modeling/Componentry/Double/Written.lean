import Componentry.Double.Shortest
import Componentry.Text.Numeral

/-!
# Doubles as text

The digits of a double are chosen by `Double.shortest`; a `NumeralStyle` decides how they are laid
out. The plain style writes values from `0.0001` up to, but not including, `10 ^ 16` positionally,
with at least one digit after the point, and all others with an exponent of at least two digits.
-/

namespace Componentry

structure NumeralStyle where
  positionalFrom : Int
  /-- The least decimal exponent from which on an exponent is written. -/
  positionalBelow : Int
  wholeFraction : String
  exponentMark : String
  exponentDigits : Nat
  nanText : String
  infinityText : String

def NumeralStyle.plain : NumeralStyle where
  positionalFrom := -4
  positionalBelow := 16
  wholeFraction := ".0"
  exponentMark := "e"
  exponentDigits := 2
  nanText := "nan"
  infinityText := "inf"

/-- The style of documents, which differs in the names of the values that are not finite. -/
def NumeralStyle.document : NumeralStyle :=
  { NumeralStyle.plain with nanText := "NaN", infinityText := "Infinity" }

namespace NumeralStyle

def padded (width : Nat) (digits : List Char) : List Char :=
  List.replicate (width - digits.length) '0' ++ digits

def exponentPart (style : NumeralStyle) (e : Int) : List Char :=
  style.exponentMark.toList ++ (if e < 0 then '-' else '+') ::
    padded style.exponentDigits (Text.digits e.natAbs)

/-- A decimal laid out positionally: `point` digits stand before the point. -/
def positional (style : NumeralStyle) (digits : List Char) (point : Int) : List Char :=
  if point ≤ 0 then
    '0' :: '.' :: (List.replicate (-point).toNat '0' ++ digits)
  else if digits.length ≤ point.toNat then
    digits ++ List.replicate (point.toNat - digits.length) '0' ++ style.wholeFraction.toList
  else
    digits.take point.toNat ++ '.' :: digits.drop point.toNat

def scientific (style : NumeralStyle) (digits : List Char) (e : Int) : List Char :=
  match digits with
  | [] => []
  | d :: [] => d :: style.exponentPart e
  | d :: rest => d :: '.' :: (rest ++ style.exponentPart e)

def layOut (style : NumeralStyle) (d : Decimal) : List Char :=
  let digits := Text.digits d.digits
  let point : Int := digits.length + d.exponent
  let e := point - 1
  if d.digits = 0 then style.positional ['0'] 1
  else if style.positionalFrom ≤ e ∧ e < style.positionalBelow then style.positional digits point
  else style.scientific digits e

end NumeralStyle

namespace Double

def written (style : NumeralStyle) : Double → String
  | nan => style.nanText
  | infinite negative => (if negative then "-" else "") ++ style.infinityText
  | finite negative m e =>
    (if negative then "-" else "") ++ String.ofList (style.layOut (shortest m e))

end Double

end Componentry
