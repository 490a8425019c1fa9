import Componentry.Double.Written
import Componentry.Proofs.Script.Lexing

/-!
# The characters of numerals

Numerals are written in digits, signs, points and letters, in every style whose own texts are. So
what a numeral is part of cannot be taken for anything that other characters make up.
-/

namespace Componentry

def isNumeralChar (c : Char) : Bool := c.isAlphanum || c = '-' || c = '+' || c = '.'

theorem toNat_of_isNumeralChar {c : Char} (h : isNumeralChar c = true) :
    33 ≤ c.toNat ∧ c.toNat < 127 := by
  simp only [isNumeralChar, Char.isAlphanum, Bool.or_eq_true, decide_eq_true_eq,
    Script.isAlpha_iff, Script.isDigit_iff] at h
  rcases h with ((((h | h) | h) | rfl) | rfl) | rfl
  · omega
  · omega
  · omega
  · decide
  · decide
  · decide

/-- A text that looks like a numeral: it holds the characters of numerals and no others. -/
structure IsNumeral (cs : List Char) : Prop where
  ne_nil : cs ≠ []
  all : ∀ c ∈ cs, isNumeralChar c = true

namespace IsNumeral

variable {cs ds : List Char}

theorem not_mem (h : IsNumeral cs) {c : Char} (hc : isNumeralChar c = false) : c ∉ cs :=
  fun hmem => by
    rw [h.all c hmem] at hc
    cases hc

theorem append (h : IsNumeral cs) (hds : ∀ c ∈ ds, isNumeralChar c = true) :
    IsNumeral (cs ++ ds) :=
  ⟨List.append_ne_nil_of_left_ne_nil h.ne_nil ds,
    fun c hc => (List.mem_append.mp hc).elim (h.all c) (hds c)⟩

theorem behind (h : IsNumeral ds) (hcs : ∀ c ∈ cs, isNumeralChar c = true) :
    IsNumeral (cs ++ ds) :=
  ⟨List.append_ne_nil_of_right_ne_nil cs h.ne_nil,
    fun c hc => (List.mem_append.mp hc).elim (hcs c) (h.all c)⟩

theorem of_all (hne : cs ≠ []) (h : cs.all isNumeralChar = true) : IsNumeral cs :=
  ⟨hne, List.all_eq_true.mp h⟩

end IsNumeral

theorem isNumeralChar_of_isDigit {c : Char} (h : c.isDigit = true) : isNumeralChar c = true := by
  simp [isNumeralChar, Char.isAlphanum, h]

theorem isNumeral_digits (n : Nat) : IsNumeral (Text.digits n) where
  ne_nil := Nat.toDigits_ne_nil
  all _ hc := isNumeralChar_of_isDigit (Script.isDigit_of_mem_digits hc)

theorem isNumeral_decimal (i : Int) : IsNumeral (Text.decimal i).toList := by
  have hdigits : IsNumeral (Text.natural i.natAbs).toList := by
    rw [Text.natural, String.toList_ofList]
    exact isNumeral_digits _
  unfold Text.decimal
  split_ifs
  · rw [String.toList_append]
    exact hdigits.behind (List.all_eq_true.mp (by decide))
  · exact hdigits

theorem isNumeralChar_of_mem_hex {c : Char} {width n : Nat} (h : c ∈ Text.hex width n) :
    isNumeralChar c = true := by
  have hdigit : ∀ m < 16, isNumeralChar (Nat.digitChar m) = true := by decide
  induction width with
  | zero => cases h
  | succ width ih =>
    rw [Text.hex, List.mem_cons] at h
    rcases h with rfl | h
    · exact hdigit _ (Nat.mod_lt _ (by omega))
    · exact ih h

theorem not_mem_hex {c : Char} (hc : isNumeralChar c = false) (width n : Nat) :
    c ∉ Text.hex width n :=
  fun h => Bool.eq_false_iff.mp hc (isNumeralChar_of_mem_hex h)

namespace NumeralStyle

/-- A style whose own texts look like numerals. -/
structure IsNumeral (style : NumeralStyle) : Prop where
  wholeFraction : style.wholeFraction.toList.all isNumeralChar = true
  exponentMark : style.exponentMark.toList.all isNumeralChar = true
  nanText : Componentry.IsNumeral style.nanText.toList
  infinityText : Componentry.IsNumeral style.infinityText.toList

theorem isNumeral_plain : plain.IsNumeral :=
  ⟨by decide, by decide, .of_all (by decide) (by decide), .of_all (by decide) (by decide)⟩

theorem isNumeral_document : document.IsNumeral :=
  ⟨by decide, by decide, .of_all (by decide) (by decide), .of_all (by decide) (by decide)⟩

theorem all_zeros (n : Nat) : ∀ c ∈ List.replicate n '0', isNumeralChar c = true := fun _ hc =>
  List.eq_of_mem_replicate hc ▸ by decide

variable {style : NumeralStyle}

theorem IsNumeral.exponentPart (h : style.IsNumeral) (e : Int) :
    ∀ c ∈ style.exponentPart e, isNumeralChar c = true := by
  intro c hc
  rw [NumeralStyle.exponentPart, List.mem_append, List.mem_cons, padded, List.mem_append] at hc
  rcases hc with hc | rfl | hc | hc
  · exact List.all_eq_true.mp h.exponentMark c hc
  · split_ifs <;> decide
  · exact all_zeros _ c hc
  · exact (isNumeral_digits _).all c hc

theorem IsNumeral.positional (h : style.IsNumeral) {ds : List Char}
    (hds : Componentry.IsNumeral ds) (point : Int) :
    Componentry.IsNumeral (style.positional ds point) := by
  unfold NumeralStyle.positional
  split_ifs
  · have hfront : ['0', '.'].all isNumeralChar = true := by decide
    exact (hds.behind (all_zeros _)).behind (List.all_eq_true.mp hfront)
  · exact (hds.append (all_zeros _)).append (List.all_eq_true.mp h.wholeFraction)
  · have hpoint : Componentry.IsNumeral ('.' :: ds.drop point.toNat) :=
      ⟨List.cons_ne_nil _ _, List.forall_mem_cons.mpr
        ⟨by decide, fun c hc => hds.all c (List.mem_of_mem_drop hc)⟩⟩
    exact hpoint.behind fun c hc => hds.all c (List.mem_of_mem_take hc)

theorem IsNumeral.scientific (h : style.IsNumeral) {ds : List Char}
    (hds : Componentry.IsNumeral ds) (e : Int) :
    Componentry.IsNumeral (style.scientific ds e) := by
  have hexponent := h.exponentPart e
  unfold NumeralStyle.scientific
  split
  · exact absurd rfl hds.ne_nil
  · exact hds.append hexponent
  · next d rest _ =>
    obtain ⟨hd, hrest⟩ := List.forall_mem_cons.mp hds.all
    have hpoint : ['.'].all isNumeralChar = true := by decide
    have hfront : Componentry.IsNumeral [d, '.'] :=
      ⟨List.cons_ne_nil _ _, List.forall_mem_cons.mpr ⟨hd, List.all_eq_true.mp hpoint⟩⟩
    exact (hfront.append hrest).append hexponent

theorem IsNumeral.layOut (h : style.IsNumeral) (d : Decimal) :
    Componentry.IsNumeral (style.layOut d) := by
  unfold NumeralStyle.layOut
  dsimp only
  split_ifs
  · exact h.positional (.of_all (by decide) (by decide)) _
  · exact h.positional (isNumeral_digits _) _
  · exact h.scientific (isNumeral_digits _) _

end NumeralStyle

theorem isNumeralChar_sign (negative : Bool) :
    ∀ c ∈ (if negative then "-" else "").toList, isNumeralChar c = true :=
  List.all_eq_true.mp (by cases negative <;> decide)

theorem Double.isNumeral_written {style : NumeralStyle} (h : style.IsNumeral) (x : Double) :
    IsNumeral (x.written style).toList := by
  cases x with
  | nan => exact h.nanText
  | infinite negative =>
    rw [Double.written, String.toList_append]
    exact h.infinityText.behind (isNumeralChar_sign negative)
  | finite negative m e =>
    rw [Double.written, String.toList_append, String.toList_ofList]
    exact (h.layOut _).behind (isNumeralChar_sign negative)

end Componentry
