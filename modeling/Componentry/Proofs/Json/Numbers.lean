import Componentry.Json.Reader
import Componentry.Proofs.Result
import Componentry.Proofs.Text.Numeral

/-!
# Whole numbers that are read

The digits of a whole number are counted while it is read, and a number of too many digits is
refused. So each whole number that is read can be written.
-/

namespace Componentry.Json

theorem le_nine_of_digit {c : Char} {d : Nat} (h : digit? c = some d) : d ≤ 9 := by
  unfold digit? at h
  split_ifs at h with hc
  have hle : c.toNat ≤ 57 := Char.le_def.mp hc.2
  have hd := Option.some.inj h
  omega

namespace NumberState

/-- A number that is being read has no more digits than are counted, unless it is real. -/
structure IsSound (n : NumberState) : Prop where
  bounded : n.real = false → n.digits < 10 ^ n.wholeDigits
  fraction : n.point = .fraction → n.real = true

variable {n n' : NumberState}

theorem isSound_starting (negative : Bool) {c : Char} {d : Nat} (h : digit? c = some d) :
    (starting negative d).IsSound where
  bounded _ := Nat.lt_succ_of_le (le_nine_of_digit h)
  fraction hpoint := by
    unfold starting at hpoint
    dsimp only at hpoint
    split_ifs at hpoint

theorem isSound_of_real (h : n.real = true) : n.IsSound :=
  ⟨fun hreal => (nomatch h.symm.trans hreal), fun _ => h⟩

theorem IsSound.moved (h : n.IsSound) (hdigits : n'.digits = n.digits)
    (hwhole : n'.wholeDigits = n.wholeDigits) (hreal : n'.real = n.real)
    (hpoint : n'.point ≠ .fraction) : n'.IsSound where
  bounded hfalse := by
    rw [hdigits, hwhole]
    exact h.bounded (hreal ▸ hfalse)
  fraction hfraction := absurd hfraction hpoint

theorem IsSound.longer (h : n.IsSound) (hpoint : n.point = .whole) {d : Nat} (hd : d ≤ 9) :
    IsSound { n with digits := 10 * n.digits + d, wholeDigits := n.wholeDigits + 1 } where
  bounded hreal := by
    have hbounded := h.bounded hreal
    change 10 * n.digits + d < 10 ^ (n.wholeDigits + 1)
    rw [Nat.pow_succ]
    omega
  fraction hfraction := nomatch hpoint.symm.trans hfraction

theorem IsSound.extend (h : n.IsSound) {index : Nat} {c : Char}
    (hn : n.extend? index c = some n') : n'.IsSound := by
  unfold extend? at hn
  dsimp only at hn
  split at hn
  case h_2 d hpoint hd => exact Option.some.inj hn ▸ h.longer hpoint (le_nine_of_digit hd)
  case h_4 d hpoint hd => exact Option.some.inj hn ▸ isSound_of_real rfl
  case h_6 d hpoint hd => exact Option.some.inj hn ▸ isSound_of_real (h.fraction hpoint)
  case h_8 d hpoint hd => exact Option.some.inj hn ▸ isSound_of_real rfl
  case h_10 d hpoint hd =>
    obtain rfl := Option.some.inj hn
    exact h.moved rfl rfl rfl (by rw [hpoint]; nofun)
  case h_5 | h_11 => cases hn
  all_goals
    split_ifs at hn
    all_goals
      cases hn
      exact h.moved rfl rfl rfl nofun

theorem IsSound.value_cases (h : n.IsSound) {v : Value} (hv : n.value = .ok v) :
    (∃ x, v = .float x) ∨ ∃ i, v = .int i ∧ Text.IsShort i := by
  have hshort {k : Nat} (hk : k < 10 ^ n.wholeDigits) (hlong : ¬ Text.digitLimit < n.wholeDigits) :
      k < 10 ^ Text.digitLimit :=
    hk.trans_le (Nat.pow_le_pow_right (by decide) (Nat.le_of_not_lt hlong))
  unfold value at hv
  by_cases hreal : n.real = true
  · rw [if_pos hreal] at hv
    cases hv
    exact .inl ⟨_, rfl⟩
  · rw [if_neg hreal] at hv
    by_cases hlong : Text.digitLimit < n.wholeDigits
    · rw [if_pos hlong] at hv
      cases hv
    · rw [if_neg hlong] at hv
      cases hv
      refine .inr ⟨_, rfl, Text.isShort_iff.mpr ?_⟩
      have hbounded := hshort (h.bounded (Bool.eq_false_iff.mpr hreal)) hlong
      split_ifs
      · rwa [Int.natAbs_neg, Int.natAbs_natCast]
      · rwa [Int.natAbs_natCast]

end NumberState

end Componentry.Json
