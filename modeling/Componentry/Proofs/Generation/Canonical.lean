import Componentry.Proofs.Generation.Unaltered
import Mathlib.Data.List.Chain

/-!
# Formatted code is canonical

Whatever text is formatted, what comes out is lines that end in no blank, each followed by the line
ending, without an empty line at the start, at the end or next to another one. The lines are those
of the text that are not blank, trimmed and in order, and between two of them there is an empty line
if and only if there was a blank one. So formatting twice is formatting once.

A text is described by its rows: each line that is not blank, together with the number of blank
lines behind it.
-/

namespace Componentry.Formatting

open Text (trimEnd isBlank allBlank)

/-- A line that is not empty, and how many empty lines stand behind it. -/
abbrev Row := List Char × Nat

/-- All lines of some rows. -/
def spread (rows : List Row) : List (List Char) :=
  rows.flatMap fun r => r.1 :: List.replicate r.2 []

/-- The lines of some rows with one empty line between two of them wherever there are any. -/
def closedUp : List Row → List (List Char)
  | [] => []
  | [r] => [r.1]
  | r :: rows => if r.2 = 0 then r.1 :: closedUp rows else r.1 :: [] :: closedUp rows

theorem closedUp_cons {rows : List Row} (h : rows ≠ []) (r : Row) :
    closedUp (r :: rows) = r.1 :: ((if r.2 = 0 then [] else [[]]) ++ closedUp rows) := by
  obtain ⟨s, rows, rfl⟩ := List.exists_cons_of_ne_nil h
  rw [closedUp]
  · split_ifs <;> rfl
  · exact List.cons_ne_nil s rows

theorem exists_rows (ls : List (List Char)) :
    ∃ lead rows, ls = List.replicate lead [] ++ spread rows ∧ ∀ r ∈ rows, r.1 ≠ [] := by
  induction ls with
  | nil => exact ⟨0, [], rfl, nofun⟩
  | cons l ls ih =>
    obtain ⟨lead, rows, rfl, hrows⟩ := ih
    by_cases hl : l = []
    · subst hl
      exact ⟨lead + 1, rows, rfl, hrows⟩
    · exact ⟨0, (l, lead) :: rows, rfl, List.forall_mem_cons.mpr ⟨hl, hrows⟩⟩

theorem squeezed_replicate (n : Nat) (ls : List (List Char)) :
    squeezed true (List.replicate n [] ++ ls) = squeezed true ls ∧
      squeezed false (List.replicate n [] ++ ls) =
        if n = 0 then squeezed false ls else [] :: squeezed true ls := by
  have hbehind : ∀ n, squeezed true (List.replicate n [] ++ ls) = squeezed true ls := by
    intro n
    induction n with
    | zero => rfl
    | succ n ih => rw [List.replicate_succ, List.cons_append, squeezed_blank, if_pos rfl, ih]
  refine ⟨hbehind n, ?_⟩
  cases n with
  | zero => rfl
  | succ n =>
    rw [List.replicate_succ, List.cons_append, squeezed_blank, if_neg Bool.false_ne_true,
      hbehind n, if_neg n.succ_ne_zero]

theorem dropBlankEnd_cons {l : List Char} (h : l ≠ []) (ls : List (List Char)) :
    dropBlankEnd (l :: ls) = l :: dropBlankEnd ls := dropBlankEnd_append h [] ls

/-- By the rows: a row keeps its line, and of its empty lines one if another row follows. -/
theorem dropBlankEnd_squeezed_spread {rows : List Row} (h : ∀ r ∈ rows, r.1 ≠ []) (b : Bool) :
    dropBlankEnd (squeezed b (spread rows)) = closedUp rows := by
  induction rows generalizing b with
  | nil => rfl
  | cons r rows ih =>
    obtain ⟨hr, hrows⟩ := List.forall_mem_cons.mp h
    obtain ⟨-, hempty⟩ := squeezed_replicate r.2 (spread rows)
    rw [spread, List.flatMap_cons, ← spread, List.cons_append, squeezed_cons hr,
      dropBlankEnd_cons hr, hempty]
    cases rows with
    | nil => split_ifs <;> rfl
    | cons s rows =>
      obtain ⟨hs, -⟩ := List.forall_mem_cons.mp hrows
      rw [closedUp_cons (List.cons_ne_nil s rows)]
      split_ifs with hn
      · rw [ih hrows, List.nil_append]
      · have hline : squeezed true (spread (s :: rows)) =
            s.1 :: squeezed false (List.replicate s.2 [] ++ spread rows) := squeezed_cons hs _ _
        have hkept := ih hrows true
        rw [hline, dropBlankEnd_cons hs] at hkept
        rw [hline, ← hkept]
        exact congrArg (r.1 :: ·) (dropBlankEnd_append hs [[]] _)

theorem lines_of_rows {cs : List Char} {lead : Nat} {rows : List Row} (h : ∀ r ∈ rows, r.1 ≠ [])
    (hcs : (Text.lines cs).map trimEnd = List.replicate lead [] ++ spread rows) :
    lines cs = closedUp rows := by
  rw [lines, hcs, (squeezed_replicate lead _).1, dropBlankEnd_squeezed_spread h]

/-- Where all lines are blank there are no rows. -/
theorem rows_eq_nil {cs : List Char} {lead : Nat} {rows : List Row} (h : ∀ r ∈ rows, r.1 ≠ [])
    (hcs : (Text.lines cs).map trimEnd = List.replicate lead [] ++ spread rows)
    (hblank : ∀ l ∈ Text.lines cs, allBlank l = true) : rows = [] := by
  rw [List.eq_nil_iff_forall_not_mem]
  intro r hr
  have hmem : r.1 ∈ (Text.lines cs).map trimEnd := by
    rw [hcs]
    exact List.mem_append_right _ (List.mem_flatMap.mpr ⟨r, hr, List.mem_cons_self⟩)
  obtain ⟨l, hl, heq⟩ := List.mem_map.mp hmem
  exact h r hr (heq ▸ Text.trimEnd_eq_nil (hblank l hl))

theorem head?_closedUp (r : Row) (rows : List Row) : (closedUp (r :: rows)).head? = some r.1 := by
  by_cases hrows : rows = []
  · subst hrows
    rfl
  · rw [closedUp_cons hrows]
    rfl

theorem closedUp_eq_concat {rows : List Row} (h : rows ≠ []) :
    ∃ front, ∃ r ∈ rows, closedUp rows = front ++ [r.1] := by
  induction rows with
  | nil => exact absurd rfl h
  | cons r rows ih =>
    by_cases hrows : rows = []
    · subst hrows
      exact ⟨[], r, List.mem_cons_self, rfl⟩
    · obtain ⟨front, s, hs, heq⟩ := ih hrows
      refine ⟨r.1 :: ((if r.2 = 0 then [] else [[]]) ++ front), s, List.mem_cons_of_mem r hs, ?_⟩
      rw [closedUp_cons hrows, heq, List.cons_append, List.append_assoc]

/-- Of two lines that stand one behind the other, one is not empty. -/
def Apart (l m : List Char) : Prop := l ≠ [] ∨ m ≠ []

theorem isChain_closedUp {rows : List Row} (h : ∀ r ∈ rows, r.1 ≠ []) :
    (closedUp rows).IsChain Apart := by
  induction rows with
  | nil => exact .nil
  | cons r rows ih =>
    obtain ⟨hr, hrows⟩ := List.forall_mem_cons.mp h
    have hfirst : ∀ ls : List (List Char), ls.IsChain Apart → (r.1 :: ls).IsChain Apart :=
      fun ls hls => List.isChain_cons.mpr ⟨fun _ _ => .inl hr, hls⟩
    cases rows with
    | nil => exact hfirst [] .nil
    | cons s rows =>
      rw [closedUp_cons (List.cons_ne_nil s rows)]
      split_ifs
      · exact hfirst _ (ih hrows)
      · refine hfirst _ (List.isChain_cons.mpr ⟨fun m hm => .inr ?_, ih hrows⟩)
        obtain rfl : s.1 = m := Option.some.inj ((head?_closedUp s rows).symm.trans hm)
        exact hrows s List.mem_cons_self

theorem squeezed_of_isChain {ls : List (List Char)} (h : ls.IsChain Apart) {b : Bool}
    (hfirst : b = true → ls.head? ≠ some []) : squeezed b ls = ls := by
  induction ls generalizing b with
  | nil => rfl
  | cons l ls ih =>
    obtain ⟨hnext, hls⟩ := List.isChain_cons.mp h
    by_cases hl : l = []
    · subst hl
      have hb : b = false := Bool.eq_false_iff.mpr fun hb => hfirst hb rfl
      have hapart : ls.head? ≠ some [] := fun hhead =>
        (hnext [] hhead).elim (fun h => h rfl) fun h => h rfl
      rw [squeezed_blank, hb, if_neg Bool.false_ne_true, ih hls fun _ => hapart]
    · rw [squeezed_cons hl, ih hls fun hb => absurd hb Bool.false_ne_true]

/-- The lines of code that was formatted, and the one behind its last line ending. -/
theorem lines_flatMap_ended {ws : List Char} (hws : '\n' ∉ ws) {ls : List (List Char)}
    (h : ∀ l ∈ ls, '\n' ∉ l) :
    Text.lines (ls.flatMap (· ++ (ws ++ ['\n']))) = ls.map (· ++ ws) ++ [[]] := by
  induction ls with
  | nil => rfl
  | cons l ls ih =>
    obtain ⟨hl, hls⟩ := List.forall_mem_cons.mp h
    have hmem : '\n' ∉ l ++ ws := fun hmem => (List.mem_append.mp hmem).elim hl hws
    have hsplit : (l :: ls).flatMap (· ++ (ws ++ ['\n'])) =
        (l ++ ws) ++ '\n' :: ls.flatMap (· ++ (ws ++ ['\n'])) := by simp
    rw [hsplit, Text.lines, Text.splitAt_append, Text.splitAt_of_not_mem hmem, ← Text.lines,
      ih hls]
    rfl

/-- A text that consists of lines, each followed by the line ending, in which there is no more white
space than it takes. Where there are no lines, one line ending is left. -/
structure IsCanonical (ending : List Char) (ls : List (List Char)) (cs : List Char) : Prop where
  text : cs = if ls = [] then ending else ls.flatMap (· ++ ending)
  ends : ∃ front, cs = front ++ ending ∧ ∀ c ∈ front.getLast?, isBlank c = false
  lineless : ∀ l ∈ ls, '\n' ∉ l
  trimmed : ∀ l ∈ ls, ∀ c ∈ l.getLast?, isBlank c = false
  first : ls.head? ≠ some []
  last : ls.getLast? ≠ some []
  apart : ls.IsChain Apart

theorem getLast?_trimEnd (cs : List Char) : ∀ c ∈ (trimEnd cs).getLast?, isBlank c = false := by
  intro c hc
  rw [trimEnd, List.getLast?_reverse] at hc
  have hnot := List.head?_dropWhile_not isBlank cs.reverse
  rw [hc] at hnot
  simpa using hnot

theorem trimEnd_of_getLast? {l : List Char} (h : ∀ c ∈ l.getLast?, isBlank c = false) :
    trimEnd l = l := by
  obtain rfl | ⟨front, c, rfl⟩ := l.eq_nil_or_concat'
  · rfl
  · exact Text.trimEnd_append (h c List.getLast?_concat) front

theorem ended_eq (ending : List Char) (ls : List (List Char)) :
    ended ending ls = if ls = [] then ending else ls.flatMap (· ++ ending) := by
  obtain rfl | ⟨front, l, rfl⟩ := ls.eq_nil_or_concat'
  · rfl
  · have hne : front ++ [l] ≠ [] := List.append_ne_nil_of_right_ne_nil front (List.cons_ne_nil l [])
    rw [ended_append (List.cons_ne_nil l []), if_neg hne, List.flatMap_append,
      List.flatMap_singleton]
    rfl

section

variable {cs ending : List Char} {lead : Nat} {rows : List Row}

theorem mem_lines_trimmed {l : List Char} (h : l ∈ lines cs) :
    ∀ c ∈ l.getLast?, isBlank c = false := by
  by_cases hl : l = []
  · rw [hl]
    exact nofun
  · obtain ⟨m, -, rfl⟩ := (mem_lines_iff hl cs).mp h
    exact getLast?_trimEnd m

theorem isCanonical_ended (h : ∀ r ∈ rows, r.1 ≠ [])
    (hcs : (Text.lines cs).map trimEnd = List.replicate lead [] ++ spread rows) :
    IsCanonical ending (closedUp rows) (ended ending (closedUp rows)) := by
  have hlines := lines_of_rows h hcs
  have htrimmed : ∀ l ∈ closedUp rows, ∀ c ∈ l.getLast?, isBlank c = false :=
    fun l hl => mem_lines_trimmed (hlines ▸ hl)
  by_cases hrows : rows = []
  · subst hrows
    exact ⟨rfl, ⟨[], rfl, nofun⟩, nofun, nofun, nofun, nofun, .nil⟩
  · obtain ⟨front, r, hr, heq⟩ := closedUp_eq_concat hrows
    have hline : r.1 ≠ [] := h r hr
    refine ⟨ended_eq _ _, ?_, fun l hl => not_mem_of_mem_lines (hlines ▸ hl), htrimmed, ?_, ?_,
      isChain_closedUp h⟩
    · rw [heq, ended_append (List.cons_ne_nil _ _)]
      refine ⟨front.flatMap (· ++ ending) ++ r.1, (List.append_assoc _ _ _).symm, ?_⟩
      rw [List.getLast?_append_of_ne_nil _ hline]
      exact htrimmed r.1 (heq ▸ List.mem_append_cons_self)
    · obtain ⟨s, rows, rfl⟩ := List.exists_cons_of_ne_nil hrows
      rw [head?_closedUp]
      exact fun hs => h s List.mem_cons_self (Option.some.inj hs)
    · rw [heq, List.getLast?_concat]
      exact fun hs => hline (Option.some.inj hs)

/-- The lines of canonical text are left as they are. -/
theorem IsCanonical.lines {ws text : List Char} {ls : List (List Char)}
    (h : IsCanonical (ws ++ ['\n']) ls text) (hws : '\n' ∉ ws) (hblank : allBlank ws = true) :
    lines text = ls := by
  have hrest : dropBlankEnd [[]] = [] := rfl
  rw [h.text]
  split_ifs with hls
  · have htwo : Text.lines (ws ++ ['\n']) = [ws, []] := by
      rw [Text.lines, Text.splitAt_append, Text.splitAt_of_not_mem hws]
      rfl
    rw [hls, Formatting.lines, htwo, List.map_cons, Text.trimEnd_eq_nil hblank]
    rfl
  · have htrim : (ls.map (· ++ ws)).map trimEnd = ls := by
      rw [List.map_map]
      refine (List.map_congr_left fun l hl => ?_).trans (List.map_id ls)
      exact (Text.trimEnd_append_of_blank hblank l).trans (trimEnd_of_getLast? (h.trimmed l hl))
    obtain ⟨front, l, rfl⟩ := ls.eq_nil_or_concat'.resolve_left hls
    have hl : l ≠ [] := by
      rintro rfl
      exact h.last List.getLast?_concat
    have hchain : (front ++ [l] ++ [[]]).IsChain Apart := by
      refine List.isChain_append.mpr ⟨h.apart, .singleton [], fun m hm _ _ => ?_⟩
      rw [List.getLast?_concat] at hm
      cases hm
      exact .inl hl
    have hhead : (front ++ [l] ++ [[]]).head? ≠ some [] := by
      rw [List.head?_append_of_ne_nil _ hls]
      exact h.first
    rw [Formatting.lines, lines_flatMap_ended hws h.lineless, List.map_append, htrim,
      List.map_singleton]
    have htail : trimEnd [] = [] := rfl
    rw [htail, squeezed_of_isChain hchain fun _ => hhead, List.append_assoc,
      List.singleton_append, dropBlankEnd_append hl, hrest]

end

/-- A text in which each carriage return with a line feed behind it is left out. -/
def withoutReturns : List Char → List Char
  | [] => []
  | '\r' :: '\n' :: cs => '\n' :: withoutReturns cs
  | c :: cs => c :: withoutReturns cs

theorem withoutReturns_cons {c : Char} {cs : List Char} (h : cs.head? ≠ some '\n') :
    withoutReturns (c :: cs) = c :: withoutReturns cs := by
  rw [withoutReturns]
  rintro ds - rfl
  exact h rfl

theorem withoutReturns_line {l : List Char} (h : '\n' ∉ l) (cs : List Char) :
    withoutReturns (l ++ '\r' :: '\n' :: cs) = l ++ '\n' :: withoutReturns cs := by
  induction l with
  | nil => rfl
  | cons c l ih =>
    obtain ⟨-, hl⟩ := List.ne_and_not_mem_of_not_mem_cons h
    have hhead : (l ++ '\r' :: '\n' :: cs).head? ≠ some '\n' := by
      cases l with
      | nil => exact Option.some_injective _ |>.ne (by decide)
      | cons d l => exact fun hd => hl (Option.some.inj hd ▸ List.mem_cons_self)
    rw [List.cons_append, withoutReturns_cons hhead, ih hl, List.cons_append]

theorem withoutReturns_ended {ls : List (List Char)} (h : ∀ l ∈ ls, '\n' ∉ l) :
    withoutReturns (ended ['\r', '\n'] ls) = ended ['\n'] ls := by
  fun_induction ended ['\r', '\n'] ls with
  | case1 => rfl
  | case2 l => exact withoutReturns_line (h l List.mem_cons_self) []
  | case3 l ls hne ih =>
    obtain ⟨hl, hls⟩ := List.forall_mem_cons.mp h
    have hnext : ended ['\n'] (l :: ls) = l ++ ['\n'] ++ ended ['\n'] ls := by
      rw [ended]
      exact hne
    have hline := withoutReturns_line hl (ended ['\r', '\n'] ls)
    rw [ih hls] at hline
    rw [hnext, List.append_assoc, List.append_assoc]
    exact hline

theorem exists_blank_lineFeed {ending : String} (h : ending = "\n" ∨ ending = "\r\n") :
    ∃ ws, ending.toList = ws ++ ['\n'] ∧ '\n' ∉ ws ∧ allBlank ws = true := by
  rcases h with rfl | rfl
  · exact ⟨[], rfl, by decide, rfl⟩
  · exact ⟨['\r'], rfl, by decide, by decide⟩

theorem toList_format (ending code : String) :
    (format ending code).toList = ended ending.toList (lines code.toList) :=
  String.toList_ofList

/-- Formatting makes code canonical: its lines are the rows of the given code closed up. Formatting
canonical code changes nothing, and how lines are ended is the only thing that the line ending
decides. -/
theorem format_canonical {ending : String} (hending : ending = "\n" ∨ ending = "\r\n")
    (code : String) :
    (∃ lead rows, (Text.lines code.toList).map trimEnd = List.replicate lead [] ++ spread rows ∧
      (∀ r ∈ rows, r.1 ≠ []) ∧
      IsCanonical ending.toList (closedUp rows) (format ending code).toList) ∧
    ((∀ l ∈ Text.lines code.toList, allBlank l = true) → format ending code = ending) ∧
    format ending (format ending code) = format ending code ∧
    withoutReturns (format "\r\n" code).toList = (format "\n" code).toList := by
  obtain ⟨lead, rows, hcode, hrows⟩ := exists_rows ((Text.lines code.toList).map trimEnd)
  have hlines : lines code.toList = closedUp rows := lines_of_rows hrows hcode
  have hcanonical : IsCanonical ending.toList (closedUp rows) (format ending code).toList := by
    rw [toList_format, hlines]
    exact isCanonical_ended hrows hcode
  refine ⟨⟨lead, rows, hcode, hrows, hcanonical⟩, fun hblank => ?_, ?_, ?_⟩
  · rw [format, hlines, rows_eq_nil hrows hcode hblank, closedUp, ended, String.ofList_toList]
  · obtain ⟨ws, hws, hlineFeed, hblank⟩ := exists_blank_lineFeed hending
    rw [hws] at hcanonical
    have hagain := hcanonical.lines hlineFeed hblank
    rw [format, hagain, format, hlines]
  · rw [toList_format, toList_format]
    exact withoutReturns_ended fun l hl => not_mem_of_mem_lines hl

/-- Two lines with a carriage return, blank lines and blanks of other scripts around them. -/
theorem format_canonical_returns :
    format "\r\n" " \n\ta \r\n\r\n\u2028\n\nb\x0b" = "\ta\r\n\r\nb\r\n" ∧
      format "\r\n" (format "\r\n" " \n\ta \r\n\r\n\u2028\n\nb\x0b") =
        format "\r\n" " \n\ta \r\n\r\n\u2028\n\nb\x0b" :=
  ⟨by decide, (format_canonical (.inr rfl) _).2.2.1⟩

end Componentry.Formatting
