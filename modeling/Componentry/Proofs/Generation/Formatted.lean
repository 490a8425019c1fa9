import Componentry.Generation.Formatting
import Componentry.Proofs.Text.Occurrences
import Componentry.Proofs.Text.Pieces
import Mathlib.Algebra.GroupWithZero.Nat
import Mathlib.Data.List.TakeWhile

/-!
# Formatted code

Formatting changes white space only, so a mark without blanks occurs in formatted code as often as
in the code itself. A line that is not blank stays: what stands before it and what stands behind it
are formatted on their own.
-/

namespace Componentry

namespace Text

variable {mark cs ds : List Char} {sep : Char}

theorem exists_unlines_append (ls : List (List Char)) :
    ∃ front, ∀ l, unlines (ls ++ [l]) = front ++ l := by
  induction ls with
  | nil => exact ⟨[], fun _ => rfl⟩
  | cons m ls ih =>
    obtain ⟨front, hfront⟩ := ih
    refine ⟨m ++ '\n' :: front, fun l => ?_⟩
    have hne : ls ++ [l] ≠ [] := List.append_ne_nil_of_right_ne_nil ls (List.cons_ne_nil l [])
    rw [List.cons_append, unlines_cons hne, hfront, List.append_assoc, List.cons_append]

theorem toList_join_lineFeed (ls : List (List Char)) :
    (join "\n" (ls.map String.ofList)).toList = unlines ls := by
  induction ls with
  | nil => rfl
  | cons l ls ih =>
    by_cases hrest : ls = []
    · subst hrest
      simp [join, unlines]
    · obtain ⟨m, ms, rfl⟩ := List.exists_cons_of_ne_nil hrest
      rw [unlines_cons hrest, ← ih]
      simp [join]

/-- Text without its trailing blanks lacks blanks only. -/
theorem exists_trimEnd_append (cs : List Char) :
    ∃ ws, cs = trimEnd cs ++ ws ∧ ∀ c ∈ ws, isBlank c = true := by
  refine ⟨(cs.reverse.takeWhile isBlank).reverse, ?_, fun c hc => ?_⟩
  · rw [trimEnd, ← List.reverse_append, List.takeWhile_append_dropWhile, List.reverse_reverse]
  · exact List.mem_takeWhile_imp (List.mem_reverse.mp hc)

theorem trimEnd_append {c : Char} (h : isBlank c = false) (cs : List Char) :
    trimEnd (cs ++ [c]) = cs ++ [c] := by
  rw [trimEnd, List.reverse_append, List.reverse_singleton, List.singleton_append,
    List.dropWhile_cons_of_neg (by rw [h]; exact Bool.false_ne_true), List.reverse_cons,
    List.reverse_reverse]

theorem trimEnd_append_of_blank (h : allBlank ds = true) (cs : List Char) :
    trimEnd (cs ++ ds) = trimEnd cs := by
  have hdrop : ds.reverse.dropWhile isBlank = [] := by
    rw [List.dropWhile_eq_nil_iff]
    exact fun c hc => List.all_eq_true.mp h c (List.mem_reverse.mp hc)
  rw [trimEnd, trimEnd, List.reverse_append, List.dropWhile_append, hdrop, List.isEmpty_nil,
    if_pos rfl]

theorem trimEnd_eq_nil (h : allBlank cs = true) : trimEnd cs = [] := trimEnd_append_of_blank h []

/-- Trimming the end of a text leaves alone what stands before something that is not blank. -/
theorem trimEnd_append_of_not_blank (h : allBlank ds = false) (cs : List Char) :
    trimEnd (cs ++ ds) = cs ++ trimEnd ds := by
  have hdrop : ds.reverse.dropWhile isBlank ≠ [] := by
    intro hnil
    rw [List.dropWhile_eq_nil_iff] at hnil
    have hall : allBlank ds = true :=
      List.all_eq_true.mpr fun c hc => hnil c (List.mem_reverse.mpr hc)
    rw [hall] at h
    cases h
  have hempty : (ds.reverse.dropWhile isBlank).isEmpty = false := by simpa using hdrop
  rw [trimEnd, trimEnd, List.reverse_append, List.dropWhile_append, hempty]
  simp

theorem toLower_of_isBlank {c : Char} (h : isBlank c = true) : c.toLower = c := by
  apply toLower_eq_self
  simp only [isBlank, inRanges, blankRanges, List.any_cons, List.any_nil, Bool.or_eq_true,
    Bool.and_eq_true, decide_eq_true_eq, Bool.false_eq_true, or_false] at h
  omega

/-- A mark that holds no blanks. -/
structure IsMark (mark : List Char) : Prop where
  ne_nil : mark ≠ []
  not_blank : mark.any isBlank = false

theorem IsMark.not_mem (h : IsMark mark) {c : Char} (hc : isBlank c = true) : c.toLower ∉ mark := by
  rw [toLower_of_isBlank hc]
  exact fun hmem => List.any_eq_false.mp h.not_blank c hmem hc

theorem IsMark.trimEnd (h : IsMark mark) (cs : List Char) :
    occurrences mark (trimEnd cs) = occurrences mark cs := by
  obtain ⟨ws, heq, hws⟩ := exists_trimEnd_append cs
  conv_rhs => rw [heq]
  exact (occurrences_append_of_forall h.ne_nil fun c hc => h.not_mem (hws c hc)).symm

/-- Blanks divide the occurrences of a mark. -/
theorem IsMark.divided (h : IsMark mark) {ws : List Char} (hne : ws ≠ [])
    (hws : ∀ c ∈ ws, isBlank c = true) (cs ds : List Char) :
    occurrences mark (cs ++ (ws ++ ds)) = occurrences mark cs + occurrences mark ds := by
  have hrest : ∀ ws : List Char, (∀ c ∈ ws, isBlank c = true) →
      occurrences mark (ws ++ ds) = occurrences mark ds := by
    intro ws hws
    induction ws with
    | nil => rfl
    | cons c ws ih =>
      obtain ⟨hc, hws⟩ := List.forall_mem_cons.mp hws
      rw [List.cons_append, occurrences_cons h.ne_nil (h.not_mem hc), ih hws]
  obtain ⟨c, ws, rfl⟩ := List.exists_cons_of_ne_nil hne
  obtain ⟨hc, hws⟩ := List.forall_mem_cons.mp hws
  rw [List.cons_append, occurrences_append h.ne_nil (h.not_mem hc), hrest ws hws]

def occurrencesIn (mark : List Char) (ls : List (List Char)) : Nat :=
  (ls.map (occurrences mark)).sum

theorem IsMark.lines (h : IsMark mark) (cs : List Char) :
    occurrencesIn mark (lines cs) = occurrences mark cs := by
  have hunlines : ∀ ls, occurrences mark (unlines ls) = occurrencesIn mark ls := by
    intro ls
    induction ls with
    | nil => rfl
    | cons l ls ih =>
      rw [occurrencesIn, List.map_cons, List.sum_cons, ← occurrencesIn]
      cases ls with
      | nil => rfl
      | cons m ls =>
        rw [unlines_cons (List.cons_ne_nil _ _),
          occurrences_append h.ne_nil (h.not_mem (by decide)), ih]
  rw [← hunlines, unlines_lines]

end Text

namespace Formatting

open Text (IsMark occurrences occurrencesIn isBlank)

section

variable {mark : List Char}

theorem squeezed_blank (b : Bool) (ls : List (List Char)) :
    squeezed b ([] :: ls) = if b then squeezed true ls else [] :: squeezed true ls := rfl

theorem squeezed_cons {l : List Char} (h : l ≠ []) (b : Bool) (ls : List (List Char)) :
    squeezed b (l :: ls) = l :: squeezed false ls := by
  cases l with
  | nil => exact absurd rfl h
  | cons c l => rfl

theorem occurrencesIn_squeezed (mark : List Char) (b : Bool) (ls : List (List Char)) :
    occurrencesIn mark (squeezed b ls) = occurrencesIn mark ls := by
  induction ls generalizing b with
  | nil => rfl
  | cons l ls ih =>
    simp only [occurrencesIn] at ih ⊢
    unfold squeezed
    split_ifs with hl hb
    · rw [List.isEmpty_iff.mp hl, ih, List.map_cons, List.sum_cons, occurrences, Nat.zero_add]
    · rw [List.map_cons, List.map_cons, List.sum_cons, List.sum_cons, ih]
    · rw [List.map_cons, List.map_cons, List.sum_cons, List.sum_cons, ih]

theorem occurrencesIn_dropBlankEnd (mark : List Char) (ls : List (List Char)) :
    occurrencesIn mark (dropBlankEnd ls) = occurrencesIn mark ls := by
  have hdrop : ∀ ls : List (List Char),
      occurrencesIn mark (ls.dropWhile List.isEmpty) = occurrencesIn mark ls := by
    intro ls
    induction ls with
    | nil => rfl
    | cons l ls ih =>
      cases l with
      | nil =>
        rw [List.dropWhile_cons_of_pos rfl, ih, occurrencesIn, occurrencesIn, List.map_cons,
          List.sum_cons, occurrences, Nat.zero_add]
      | cons c l => rfl
  have hreverse : ∀ ls : List (List Char),
      occurrencesIn mark ls.reverse = occurrencesIn mark ls := fun ls => by
    rw [occurrencesIn, List.map_reverse, List.sum_reverse]
    rfl
  rw [dropBlankEnd, hreverse, hdrop, hreverse]

theorem occurrences_ended (h : IsMark mark) {ending : List Char} (hne : ending ≠ [])
    (hending : ∀ c ∈ ending, isBlank c = true) (ls : List (List Char)) :
    occurrences mark (ended ending ls) = occurrencesIn mark ls := by
  have hdivided := h.divided hne hending
  fun_induction ended ending ls with
  | case1 =>
    have := hdivided [] []
    rwa [List.nil_append, List.append_nil] at this
  | case2 l =>
    have := hdivided l []
    rwa [List.append_nil] at this
  | case3 l ls _ ih => rw [List.append_assoc, hdivided, ih]; rfl

/-- A mark without blanks occurs in formatted code as often as in the code. -/
theorem occurrences_format (h : IsMark mark) {ending : String} (hne : ending.toList ≠ [])
    (hending : ∀ c ∈ ending.toList, isBlank c = true) (code : String) :
    occurrences mark (format ending code).toList = occurrences mark code.toList := by
  have htrim : ∀ ls : List (List Char),
      occurrencesIn mark (ls.map Text.trimEnd) = occurrencesIn mark ls := fun ls => by
    rw [occurrencesIn, occurrencesIn, List.map_map]
    exact congrArg List.sum (List.map_congr_left fun l _ => h.trimEnd l)
  rw [format, String.toList_ofList, occurrences_ended h hne hending, lines,
    occurrencesIn_dropBlankEnd, occurrencesIn_squeezed, htrim, h.lines]

end

theorem squeezed_append {l : List Char} (h : l ≠ []) (b : Bool) (ls ms : List (List Char)) :
    squeezed b (ls ++ l :: ms) = squeezed b ls ++ l :: squeezed false ms := by
  induction ls generalizing b with
  | nil => exact squeezed_cons h b ms
  | cons m ls ih =>
    rw [List.cons_append]
    cases m with
    | nil =>
      rw [squeezed_blank, squeezed_blank, ih]
      split <;> rfl
    | cons c m =>
      rw [squeezed_cons (List.cons_ne_nil c m), squeezed_cons (List.cons_ne_nil c m), ih,
        List.cons_append]

theorem dropBlankEnd_append {l : List Char} (h : l ≠ []) (ls ms : List (List Char)) :
    dropBlankEnd (ls ++ l :: ms) = ls ++ l :: dropBlankEnd ms := by
  have hl : ¬ l.isEmpty = true := fun he => h (List.isEmpty_iff.mp he)
  have hdrop : ∀ ns : List (List Char), (ns ++ l :: ls.reverse).dropWhile List.isEmpty =
      ns.dropWhile List.isEmpty ++ l :: ls.reverse := by
    intro ns
    induction ns with
    | nil => exact List.dropWhile_cons_of_neg hl
    | cons n ns ih =>
      rw [List.cons_append, List.dropWhile_cons, List.dropWhile_cons, ih]
      split <;> rfl
  rw [dropBlankEnd, List.reverse_append, List.reverse_cons, List.append_assoc,
    List.singleton_append, hdrop, List.reverse_append, List.reverse_cons, List.reverse_reverse,
    List.append_assoc]
  rfl

theorem ended_append {ending : List Char} {ms : List (List Char)} (h : ms ≠ [])
    (ls : List (List Char)) :
    ended ending (ls ++ ms) = ls.flatMap (· ++ ending) ++ ended ending ms := by
  induction ls with
  | nil => rfl
  | cons l ls ih =>
    rw [List.cons_append, ended, ih, List.flatMap_cons, List.append_assoc, List.append_assoc,
      List.append_assoc]
    intro heq
    exact h (List.append_eq_nil_iff.mp heq).2

theorem exists_ended_eq (ending : List Char) (ls : List (List Char)) :
    ∃ front, ended ending ls = front ++ ending := by
  fun_induction ended ending ls with
  | case1 => exact ⟨[], rfl⟩
  | case2 l => exact ⟨l, rfl⟩
  | case3 l ls _ ih =>
    obtain ⟨front, hfront⟩ := ih
    refine ⟨l ++ ending ++ front, ?_⟩
    rw [hfront, List.append_assoc, List.append_assoc, List.append_assoc]

/-- The end of a text, if it does not end in a blank, stays at the end of its line. -/
theorem trimmed_append {ds : List Char} {c : Char} (hds : '\n' ∉ ds) (hc : isBlank c = false)
    (cs : List Char) :
    ∃ ls l, (Text.lines (cs ++ (ds ++ [c]))).map Text.trimEnd = ls ++ [l ++ (ds ++ [c])] := by
  have hmem : '\n' ∉ ds ++ [c] := fun h => by
    rcases List.mem_append.mp h with h | h
    · exact hds h
    · rw [← List.mem_singleton.mp h] at hc
      cases hc
  obtain ⟨pieces, piece, heq⟩ := Text.splitAt_append_of_not_mem hmem cs
  refine ⟨pieces.map Text.trimEnd, piece, ?_⟩
  rw [Text.lines, heq, List.map_append, List.map_singleton, ← List.append_assoc,
    Text.trimEnd_append hc]

theorem lines_eq {cs l : List Char} {ls ms : List (List Char)} (hl : l ≠ [])
    (h : (Text.lines cs).map Text.trimEnd = ls ++ l :: ms) :
    lines cs = squeezed true ls ++ l :: dropBlankEnd (squeezed false ms) := by
  rw [lines, h, squeezed_append hl, dropBlankEnd_append hl]

theorem ended_lines_append {ds : List Char} {c : Char} (hds : '\n' ∉ ds) (hc : isBlank c = false)
    (ending cs : List Char) :
    ∃ before, ended ending (lines (cs ++ (ds ++ [c]))) = before ++ (ds ++ [c] ++ ending) := by
  obtain ⟨ls, l, h⟩ := trimmed_append hds hc cs
  refine ⟨(squeezed true ls).flatMap (· ++ ending) ++ l, ?_⟩
  rw [lines_eq (by simp) h, squeezed, ended_append (List.cons_ne_nil _ _)]
  simp [dropBlankEnd, ended]

/-- Code behind the end of a line that is not blank is formatted on its own, unless it begins with
a blank line. -/
theorem ended_lines_lineFeed {rest r : List Char} {c : Char} {rs : List (List Char)}
    (hc : isBlank c = false) (hr : r ≠ []) (hrest : (Text.lines rest).map Text.trimEnd = r :: rs)
    (ending cs : List Char) :
    ended ending (lines (cs ++ [c] ++ '\n' :: rest)) =
      ended ending (lines (cs ++ [c])) ++ ended ending (lines rest) := by
  obtain ⟨ls, l, h⟩ := trimmed_append (List.not_mem_nil (a := '\n')) hc cs
  rw [List.nil_append] at h
  have hlines : (Text.lines (cs ++ [c] ++ '\n' :: rest)).map Text.trimEnd =
      ls ++ (l ++ [c]) :: r :: rs := by
    rw [Text.lines, Text.splitAt_append, List.map_append, ← Text.lines, h, ← Text.lines, hrest,
      List.append_assoc, List.singleton_append]
  have hbehind : dropBlankEnd (squeezed false (r :: rs)) = lines rest := by
    rw [lines, hrest, squeezed_cons hr, squeezed_cons hr]
  have hne : lines rest ≠ [] := by
    rw [lines_eq hr (show _ = [] ++ r :: rs from hrest)]
    exact List.cons_ne_nil _ _
  have hl : l ++ [c] ≠ [] := List.append_ne_nil_of_right_ne_nil l (List.cons_ne_nil c [])
  have hlast : dropBlankEnd (squeezed false []) = [] := rfl
  rw [lines_eq hl hlines, lines_eq hl h, hbehind, hlast, ← List.singleton_append,
    ← List.append_assoc, ended_append hne, ended_append (List.cons_ne_nil _ _),
    List.flatMap_append, List.flatMap_singleton, ended]

theorem ended_lines_break {ds rest r : List Char} {c : Char} {rs : List (List Char)}
    (hds : '\n' ∉ ds) (hc : isBlank c = false) (hr : r ≠ [])
    (hrest : (Text.lines rest).map Text.trimEnd = r :: rs) (ending cs : List Char) :
    ∃ before, ended ending (lines (cs ++ (ds ++ [c]) ++ '\n' :: rest)) =
      before ++ (ds ++ [c] ++ (ending ++ ended ending (lines rest))) := by
  obtain ⟨before, hbefore⟩ := ended_lines_append hds hc ending cs
  refine ⟨before, ?_⟩
  rw [← List.append_assoc] at hbefore ⊢
  rw [ended_lines_lineFeed hc hr hrest, hbefore]
  simp

theorem mem_squeezed_iff {l : List Char} (h : l ≠ []) (b : Bool) (ls : List (List Char)) :
    l ∈ squeezed b ls ↔ l ∈ ls := by
  induction ls generalizing b with
  | nil => rfl
  | cons m ls ih =>
    by_cases hm : m = []
    · subst hm
      rw [squeezed_blank]
      split <;> simp [ih, h]
    · rw [squeezed_cons hm, List.mem_cons, List.mem_cons, ih]

theorem mem_dropBlankEnd_iff {l : List Char} (h : l ≠ []) (ls : List (List Char)) :
    l ∈ dropBlankEnd ls ↔ l ∈ ls := by
  have hdrop : ∀ ms : List (List Char), l ∈ ms.dropWhile List.isEmpty ↔ l ∈ ms := by
    intro ms
    induction ms with
    | nil => rfl
    | cons m ms ih =>
      by_cases hm : m = []
      · subst hm
        simp [ih, h]
      · rw [List.dropWhile_cons_of_neg (by simpa using hm)]
  rw [dropBlankEnd, List.mem_reverse, hdrop, List.mem_reverse]

/-- The lines of formatted code that are not blank are the trimmed lines of the code. -/
theorem mem_lines_iff {l : List Char} (h : l ≠ []) (cs : List Char) :
    l ∈ lines cs ↔ ∃ m ∈ Text.lines cs, Text.trimEnd m = l := by
  rw [lines, mem_dropBlankEnd_iff h, mem_squeezed_iff h, List.mem_map]

end Formatting

end Componentry
