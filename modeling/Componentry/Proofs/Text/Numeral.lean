import Componentry.Text.Numeral
import Mathlib.Data.Nat.Digits.Defs

/-!
# Whole numbers that can be written

A whole number is written if it is short, which is to say that it has no more digits than the limit,
and then it is written in all its digits.
-/

namespace Componentry.Text

/-- A whole number has no more digits than are written. -/
def IsShort (i : Int) : Prop := (digits i.natAbs).length ≤ digitLimit

instance (i : Int) : Decidable (IsShort i) := inferInstanceAs (Decidable (_ ≤ _))

variable {i : Int}

theorem isShort_iff : IsShort i ↔ i.natAbs < 10 ^ digitLimit :=
  Nat.length_toDigits_le_iff (by decide) (by decide)

theorem integer_eq_some {s : String} : integer i = some s ↔ IsShort i ∧ s = decimal i := by
  unfold integer IsShort
  split_ifs with h
  · exact ⟨nofun, fun hs => absurd hs.1 (Nat.not_le_of_lt h)⟩
  · rw [Option.some.injEq, eq_comm]
    exact (and_iff_right (Nat.le_of_not_lt h)).symm

theorem integer_of_isShort (h : IsShort i) : integer i = some (decimal i) :=
  integer_eq_some.mpr ⟨h, rfl⟩

theorem integer_of_not_isShort (h : ¬ IsShort i) : integer i = none :=
  if_pos (Nat.lt_of_not_le h)

/-- The least number that is not short. -/
def tooLong : Int := (10 ^ digitLimit : Nat)

theorem not_isShort_tooLong : ¬ IsShort tooLong := by
  rw [isShort_iff, tooLong, Int.natAbs_natCast]
  exact lt_irrefl _

end Componentry.Text
