import Mathlib.Data.List.Infix

/-!
# Occurrences of a mark

How often a mark occurs in a text, regardless of the case of ASCII letters, and what stands behind
its first occurrence. A character that is not in the mark separates: the occurrences on its two
sides add up. Pieces of text that no occurrence leaves add up as well, see `Adds`.
-/

namespace Componentry.Text

variable {mark cs ds rest : List Char} {c : Char}

def beginsWith (mark cs : List Char) : Bool := mark.isPrefixOf (cs.map Char.toLower)

/-- The number of places at which a mark occurs in a text. -/
def occurrences (mark : List Char) : List Char → Nat
  | [] => 0
  | c :: cs => (if beginsWith mark (c :: cs) then 1 else 0) + occurrences mark cs

/-- What stands behind the first occurrence of a mark. -/
def behind? (mark : List Char) : List Char → Option (List Char)
  | [] => none
  | c :: cs =>
    if beginsWith mark (c :: cs) then some ((c :: cs).drop mark.length) else behind? mark cs

theorem toNat_toLower (c : Char) :
    c.toLower.toNat = if 65 ≤ c.toNat ∧ c.toNat ≤ 90 then c.toNat + 32 else c.toNat := by
  have hiff : (c.val ≥ 'A'.val ∧ c.val ≤ 'Z'.val) ↔ 65 ≤ c.toNat ∧ c.toNat ≤ 90 := by
    simp only [ge_iff_le, UInt32.le_iff_toNat_le]
    exact Iff.rfl
  unfold Char.toLower
  by_cases hc : 65 ≤ c.toNat ∧ c.toNat ≤ 90
  · rw [dif_pos (hiff.mpr hc), if_pos hc]
    change (c.val.toNat + 32) % 2 ^ 32 = c.val.toNat + 32
    have hc : c.val.toNat ≤ 90 := hc.2
    omega
  · rw [dif_neg (mt hiff.mp hc), if_neg hc]

theorem toLower_eq_self (h : c.toNat < 65 ∨ 90 < c.toNat) : c.toLower = c := by
  apply Char.toNat_inj.mp
  rw [toNat_toLower, if_neg (by omega)]

/-- Only a lower-case letter is another character in lower case. -/
theorem eq_of_toLower {d : Char} (h : c.toLower = d) (hd : d.toNat < 97 ∨ 122 < d.toNat) :
    c = d := by
  apply Char.toNat_inj.mp
  rw [← h, toNat_toLower] at hd ⊢
  split_ifs at hd ⊢ <;> omega

theorem beginsWith_append (h : c.toLower ∉ mark) :
    beginsWith mark (cs ++ c :: ds) = beginsWith mark cs := by
  induction mark generalizing cs with
  | nil => rfl
  | cons m mark ih =>
    obtain ⟨hm, hmark⟩ := List.ne_and_not_mem_of_not_mem_cons h
    cases cs with
    | nil =>
      have hne : (m == c.toLower) = false := beq_false_of_ne hm.symm
      simp [beginsWith, List.isPrefixOf, hne]
    | cons d cs =>
      have hrest : beginsWith mark (cs ++ c :: ds) = beginsWith mark cs := ih hmark
      rw [beginsWith, beginsWith] at hrest
      rw [List.cons_append, beginsWith, beginsWith, List.map_cons, List.map_cons,
        List.isPrefixOf_cons_cons, List.isPrefixOf_cons_cons, hrest]

theorem beginsWith_cons (hmark : mark ≠ []) (h : c.toLower ∉ mark) :
    beginsWith mark (c :: ds) = false := by
  cases mark with
  | nil => exact absurd rfl hmark
  | cons m mark => rw [← List.nil_append (c :: ds), beginsWith_append h]; rfl

theorem occurrences_cons (hmark : mark ≠ []) (h : c.toLower ∉ mark) :
    occurrences mark (c :: ds) = occurrences mark ds := by
  rw [occurrences, beginsWith_cons hmark h, if_neg Bool.false_ne_true, Nat.zero_add]

/-- Occurrences on the two sides of a character that is not in the mark. -/
theorem occurrences_append (hmark : mark ≠ []) (h : c.toLower ∉ mark) :
    occurrences mark (cs ++ c :: ds) = occurrences mark cs + occurrences mark ds := by
  induction cs with
  | nil => rw [List.nil_append, occurrences_cons hmark h, occurrences, Nat.zero_add]
  | cons d cs ih =>
    rw [List.cons_append, occurrences, occurrences, ih, ← List.cons_append, beginsWith_append h,
      Nat.add_assoc]

theorem occurrences_append_of_forall (hmark : mark ≠ []) (h : ∀ c ∈ ds, c.toLower ∉ mark) :
    occurrences mark (cs ++ ds) = occurrences mark cs := by
  induction ds generalizing cs with
  | nil => rw [List.append_nil]
  | cons d ds ih =>
    obtain ⟨hd, hds⟩ := List.forall_mem_cons.mp h
    have hrest : occurrences mark ([] ++ ds) = occurrences mark [] := ih hds
    rw [occurrences_append hmark hd, ← List.nil_append ds, hrest, occurrences, Nat.add_zero]

theorem occurrences_le_append (mark cs ds : List Char) :
    occurrences mark ds ≤ occurrences mark (cs ++ ds) := by
  induction cs with
  | nil => exact Nat.le_refl _
  | cons c cs ih => exact Nat.le_trans ih (Nat.le_add_left _ _)

/-- An occurrence is the first one just if all occurrences are at or behind it. -/
theorem behind?_eq_some_iff {m : List Char} (hm : m.map Char.toLower = mark) (hmark : mark ≠ [])
    (cs ds : List Char) :
    behind? mark (cs ++ (m ++ ds)) = some ds ↔
      occurrences mark (cs ++ (m ++ ds)) = occurrences mark (m ++ ds) := by
  have hlength : mark.length = m.length := by rw [← hm, List.length_map]
  induction cs with
  | nil =>
    have hbegins : beginsWith mark (m ++ ds) = true := by
      rw [beginsWith, List.map_append, hm, List.isPrefixOf_iff_prefix]
      exact List.prefix_append _ _
    obtain ⟨c, m, rfl⟩ := List.exists_cons_of_ne_nil (l := m) fun h => hmark (by rw [← hm, h]; rfl)
    rw [List.cons_append] at hbegins
    simp [behind?, hbegins, hlength]
  | cons c cs ih =>
    rw [List.cons_append, behind?, occurrences]
    cases hbegins : beginsWith mark (c :: (cs ++ (m ++ ds))) with
    | true =>
      -- this one is counted on top of those at or behind `m`, and what is behind it is longer
      have hle := occurrences_le_append mark cs (m ++ ds)
      rw [if_pos rfl, if_pos rfl]
      refine ⟨fun h => ?_, fun h => by omega⟩
      have := congrArg List.length (Option.some.inj h)
      simp only [List.length_drop, List.length_cons, List.length_append, hlength] at this
      omega
    | false => rwa [if_neg Bool.false_ne_true, if_neg Bool.false_ne_true, Nat.zero_add]

/-- A piece of text in which a mark occurs `n` times, and which no occurrence leaves. -/
def Adds (mark cs : List Char) (n : Nat) : Prop :=
  ∀ rest, occurrences mark (cs ++ rest) = n + occurrences mark rest

namespace Adds

theorem append {m n : Nat} (hcs : Adds mark cs m) (hds : Adds mark ds n) :
    Adds mark (cs ++ ds) (m + n) := by
  intro rest
  rw [List.append_assoc, hcs, hds, Nat.add_assoc]

theorem occurrences {n : Nat} (h : Adds mark cs n) : occurrences mark cs = n := by
  have := h []
  rwa [List.append_nil, Text.occurrences, Nat.add_zero] at this

/-- No occurrence begins where the first character of the mark is not. -/
theorem of_not_mem {first : Char} {more : List Char} (h : ∀ c ∈ cs, c.toLower ≠ first) :
    Adds (first :: more) cs 0 := by
  intro rest
  induction cs with
  | nil => exact (Nat.zero_add _).symm
  | cons c cs ih =>
    obtain ⟨hc, hcs⟩ := List.forall_mem_cons.mp h
    have hbegins : beginsWith (first :: more) (c :: (cs ++ rest)) = false := by
      have hne : (first == c.toLower) = false := beq_false_of_ne (Ne.symm hc)
      simp [beginsWith, List.isPrefixOf, hne]
    rw [List.cons_append, Text.occurrences, hbegins, ih hcs, if_neg Bool.false_ne_true,
      Nat.zero_add]

end Adds

end Componentry.Text
