import Componentry.Text.Lines
import Mathlib.Data.List.Basic

/-!
# Texts in pieces

A text is split at a separator into pieces that do not hold it, and what holds no separator stays in
one piece. A text that is repeated holds the characters of the one that it repeats.
-/

namespace Componentry.Text

variable {cs ds : List Char} {sep : Char}

theorem splitAt_ne_nil (sep : Char) (cs : List Char) : splitAt sep cs ≠ [] := by
  cases cs with
  | nil => exact List.cons_ne_nil _ _
  | cons c cs =>
    unfold splitAt
    split
    · exact List.cons_ne_nil _ _
    · split <;> exact List.cons_ne_nil _ _

theorem splitAt_cons {c : Char} (h : c ≠ sep) {piece : List Char} {pieces : List (List Char)}
    (hcs : splitAt sep cs = piece :: pieces) : splitAt sep (c :: cs) = (c :: piece) :: pieces := by
  rw [splitAt, if_neg h, hcs]

theorem splitAt_append (cs ds : List Char) :
    splitAt sep (cs ++ sep :: ds) = splitAt sep cs ++ splitAt sep ds := by
  induction cs with
  | nil => simp [splitAt]
  | cons c cs ih =>
    by_cases hc : c = sep
    · rw [List.cons_append, splitAt, if_pos hc, splitAt, if_pos hc, ih]
      rfl
    · obtain ⟨piece, pieces, hcs⟩ := List.exists_cons_of_ne_nil (splitAt_ne_nil sep cs)
      rw [hcs, List.cons_append] at ih
      rw [List.cons_append, splitAt_cons hc ih, splitAt_cons hc hcs, List.cons_append]

theorem splitAt_of_not_mem (h : sep ∉ cs) : splitAt sep cs = [cs] := by
  induction cs with
  | nil => rfl
  | cons c cs ih =>
    obtain ⟨hc, hcs⟩ := List.ne_and_not_mem_of_not_mem_cons h
    exact splitAt_cons hc.symm (ih hcs)

/-- What holds no separator goes before the first piece. -/
theorem splitAt_prepend (h : sep ∉ cs) {piece : List Char} {pieces : List (List Char)}
    (hds : splitAt sep ds = piece :: pieces) :
    splitAt sep (cs ++ ds) = (cs ++ piece) :: pieces := by
  induction cs with
  | nil => exact hds
  | cons c cs ih =>
    obtain ⟨hc, hcs⟩ := List.ne_and_not_mem_of_not_mem_cons h
    exact splitAt_cons hc.symm (ih hcs)

/-- What holds no separator goes on with the last piece. -/
theorem splitAt_append_of_not_mem (h : sep ∉ ds) (cs : List Char) :
    ∃ pieces piece, splitAt sep (cs ++ ds) = pieces ++ [piece ++ ds] := by
  induction cs with
  | nil => exact ⟨[], [], splitAt_of_not_mem h⟩
  | cons c cs ih =>
    obtain ⟨pieces, piece, heq⟩ := ih
    by_cases hc : c = sep
    · exact ⟨[] :: pieces, piece, by rw [List.cons_append, splitAt, if_pos hc, heq]; rfl⟩
    · cases pieces with
      | nil => exact ⟨[], c :: piece, splitAt_cons hc heq⟩
      | cons first pieces => exact ⟨(c :: first) :: pieces, piece, splitAt_cons hc heq⟩

theorem unlines_cons {l : List Char} {ls : List (List Char)} (h : ls ≠ []) :
    unlines (l :: ls) = l ++ '\n' :: unlines ls := by
  cases ls with
  | nil => exact absurd rfl h
  | cons m ls => rfl

theorem unlines_lines (cs : List Char) : unlines (lines cs) = cs := by
  induction cs with
  | nil => rfl
  | cons c cs ih =>
    by_cases hc : c = '\n'
    · rw [lines, splitAt, if_pos hc, unlines_cons (splitAt_ne_nil _ _), ← lines, ih, hc]
      rfl
    · obtain ⟨piece, pieces, hcs⟩ := List.exists_cons_of_ne_nil (splitAt_ne_nil '\n' cs)
      rw [lines, hcs] at ih
      rw [lines, splitAt_cons hc hcs]
      cases pieces with
      | nil => exact congrArg (c :: ·) ih
      | cons l pieces =>
        rw [unlines_cons (List.cons_ne_nil _ _)] at ih ⊢
        rw [List.cons_append, ih]

theorem not_mem_of_mem_splitAt {piece : List Char} (h : piece ∈ splitAt sep cs) : sep ∉ piece := by
  induction cs generalizing piece with
  | nil =>
    rw [List.mem_singleton.mp h]
    exact List.not_mem_nil
  | cons c cs ih =>
    by_cases hc : c = sep
    · rw [splitAt, if_pos hc] at h
      rcases List.mem_cons.mp h with rfl | h
      · exact List.not_mem_nil
      · exact ih h
    · obtain ⟨first, pieces, hcs⟩ := List.exists_cons_of_ne_nil (splitAt_ne_nil sep cs)
      rw [splitAt_cons hc hcs] at h
      rw [hcs] at ih
      rcases List.mem_cons.mp h with rfl | h
      · intro hmem
        rcases List.mem_cons.mp hmem with rfl | hmem
        · exact hc rfl
        · exact ih List.mem_cons_self hmem
      · exact ih (List.mem_cons_of_mem first h)

theorem mem_of_mem_splitAt {piece : List Char} (h : piece ∈ splitAt sep cs) {c : Char}
    (hc : c ∈ piece) : c ∈ cs := by
  induction cs generalizing piece with
  | nil =>
    rw [List.mem_singleton.mp h] at hc
    cases hc
  | cons d cs ih =>
    by_cases hd : d = sep
    · rw [splitAt, if_pos hd] at h
      rcases List.mem_cons.mp h with rfl | h
      · cases hc
      · exact List.mem_cons_of_mem d (ih h hc)
    · obtain ⟨first, pieces, hcs⟩ := List.exists_cons_of_ne_nil (splitAt_ne_nil sep cs)
      rw [splitAt_cons hd hcs] at h
      rw [hcs] at ih
      rcases List.mem_cons.mp h with rfl | h
      · rcases List.mem_cons.mp hc with rfl | hc
        · exact List.mem_cons_self
        · exact List.mem_cons_of_mem d (ih List.mem_cons_self hc)
      · exact List.mem_cons_of_mem d (ih (List.mem_cons_of_mem first h) hc)

/-- Joined lines are split where they were joined. -/
theorem lines_unlines {ls : List (List Char)} (hne : ls ≠ []) (h : ∀ l ∈ ls, '\n' ∉ l) :
    lines (unlines ls) = ls := by
  induction ls with
  | nil => exact absurd rfl hne
  | cons l ls ih =>
    obtain ⟨hl, hls⟩ := List.forall_mem_cons.mp h
    by_cases hrest : ls = []
    · subst hrest
      exact splitAt_of_not_mem hl
    · rw [unlines_cons hrest, lines, splitAt_append, splitAt_of_not_mem hl, ← lines,
        ih hrest hls, List.singleton_append]

section

variable {s : String}

theorem mem_of_mem_repeated {c : Char} {n : Nat} (h : c ∈ (repeated s n).toList) :
    c ∈ s.toList := by
  induction n with
  | zero => cases h
  | succ n ih =>
    rw [repeated, String.toList_append, List.mem_append] at h
    exact h.elim id ih

theorem not_mem_repeated {c : Char} (h : c ∉ s.toList) (n : Nat) : c ∉ (repeated s n).toList :=
  mt mem_of_mem_repeated h

theorem length_repeated (s : String) (n : Nat) : (repeated s n).length = s.length * n := by
  induction n with
  | zero => rfl
  | succ n ih => rw [repeated, String.length_append, ih, Nat.mul_succ, Nat.add_comm]

theorem utf8ByteSize_repeated (s : String) (n : Nat) :
    (repeated s n).utf8ByteSize = s.utf8ByteSize * n := by
  induction n with
  | zero => rfl
  | succ n ih => rw [repeated, String.utf8ByteSize_append, ih, Nat.mul_succ, Nat.add_comm]

end

end Componentry.Text
