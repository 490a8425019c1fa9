import Componentry.Proofs.Generation.Formatted

/-!
# Tidy text

A text is tidy if nothing about its white space is to be changed: no line of it ends in a blank, no
two of its lines in a row are empty, and it neither begins nor ends with an empty line. Whether a
text is tidy is told by reading it character by character. So a text that is put together from
pieces is tidy if each piece leads from where the one before it ends.
-/

namespace Componentry.Text

/-- How a text that is read ends so far. -/
inductive Ending where
  /-- With a character that is not blank. -/
  | solid
  /-- With a blank in a line. -/
  | gap
  /-- With the line feed of a line that is not empty. -/
  | feed
  /-- With an empty line, or where nothing has been read. -/
  | blank
  deriving DecidableEq

namespace Ending

/-- The ending behind one more character, if that may stand there. -/
def next? (e : Ending) (c : Char) : Option Ending :=
  if c = '\n' then
    match e with
    | solid => some feed
    | feed => some blank
    | _ => none
  else some (if isBlank c then gap else solid)

def follow? (e : Ending) : List Char → Option Ending
  | [] => some e
  | c :: cs => (e.next? c).bind (follow? · cs)

/-- A line feed may follow. -/
def Settled (e : Ending) : Prop := e = solid ∨ e = feed

end Ending

def IsTidy (cs : List Char) : Prop := Ending.blank.follow? cs = some .solid

open Ending (follow? Settled)

theorem follow?_append (e : Ending) (cs ds : List Char) :
    e.follow? (cs ++ ds) = (e.follow? cs).bind (follow? · ds) := by
  induction cs generalizing e with
  | nil => rfl
  | cons c cs ih =>
    rw [List.cons_append, follow?, follow?, Option.bind_assoc]
    exact congrArg _ (funext ih)

theorem next?_of_ne {c : Char} (h : c ≠ '\n') (e : Ending) :
    e.next? c = some (if isBlank c then .gap else .solid) := by
  unfold Ending.next?
  exact if_neg h

theorem follow?_of_not_mem {cs : List Char} {c : Char} (hcs : '\n' ∉ cs) (hc : c ≠ '\n')
    (e : Ending) : e.follow? (cs ++ [c]) = some (if isBlank c then .gap else .solid) := by
  induction cs generalizing e with
  | nil => rw [List.nil_append, follow?, next?_of_ne hc]; rfl
  | cons d cs ih =>
    obtain ⟨hd, hcs⟩ := List.ne_and_not_mem_of_not_mem_cons hcs
    rw [List.cons_append, follow?, next?_of_ne hd.symm, Option.bind_some, ih hcs]

/-- Behind any text with an ending for which `p` holds, a text may stand, and then `q` holds of the
ending. -/
def Leads (p : Ending → Prop) (cs : List Char) (q : Ending → Prop) : Prop :=
  ∀ e, p e → ∃ e', e.follow? cs = some e' ∧ q e'

def anywhere : Ending → Prop := fun _ => True

def solidly : Ending → Prop := fun e => e = .solid

section

variable {p q r : Ending → Prop} {cs ds : List Char}

theorem Leads.append (hcs : Leads p cs q) (hds : Leads q ds r) : Leads p (cs ++ ds) r := by
  intro e he
  obtain ⟨e', he', hq⟩ := hcs e he
  obtain ⟨e'', he'', hr⟩ := hds e' hq
  exact ⟨e'', by rw [follow?_append, he', Option.bind_some, he''], hr⟩

theorem Leads.strengthen (h : Leads q cs r) (hpq : ∀ e, p e → q e) : Leads p cs r :=
  fun e he => h e (hpq e he)

theorem Leads.weaken (h : Leads p cs q) (hqr : ∀ e, q e → r e) : Leads p cs r := fun e he =>
  (h e he).imp fun e' h => ⟨h.1, hqr e' h.2⟩

theorem leads_nil : Leads p [] p := fun e he => ⟨e, rfl, he⟩

/-- Any text within a line may stand anywhere. -/
theorem leads_of_not_mem (h : '\n' ∉ cs) : Leads p cs anywhere := by
  intro e _
  obtain rfl | ⟨front, c, rfl⟩ := cs.eq_nil_or_concat'
  · exact ⟨e, rfl, trivial⟩
  · rw [List.mem_append, not_or, List.mem_singleton] at h
    exact ⟨_, follow?_of_not_mem h.1 (Ne.symm h.2) e, trivial⟩

theorem leads_solid {c : Char} (hcs : '\n' ∉ cs) (hc : isBlank c = false) :
    Leads p (cs ++ [c]) solidly := by
  intro e _
  have hne : c ≠ '\n' := by
    rintro rfl
    cases hc
  exact ⟨.solid, by rw [follow?_of_not_mem hcs hne, hc, if_neg Bool.false_ne_true], rfl⟩

theorem leads_char {c : Char} (hc : isBlank c = false) : Leads p [c] solidly :=
  leads_solid List.not_mem_nil hc

theorem leads_of_not_blank (hne : cs ≠ []) (h : ∀ c ∈ cs, isBlank c = false) :
    Leads p cs solidly := by
  obtain ⟨front, c, rfl⟩ := cs.eq_nil_or_concat'.resolve_left hne
  refine leads_solid (fun hmem => ?_) (h c (by simp))
  exact absurd (h '\n' (List.mem_append_left _ hmem)) (by decide)

theorem isBlank_of_graphic {c : Char} (h : 33 ≤ c.toNat ∧ c.toNat < 127) : isBlank c = false := by
  rw [isBlank, inRanges, List.any_eq_false]
  simp only [blankRanges, List.forall_mem_cons, Bool.and_eq_true, decide_eq_true_eq]
  refine ⟨?_, ?_, ?_, ?_, ?_, ?_, ?_, ?_, ?_, ?_, List.forall_mem_nil _⟩ <;> omega

theorem leads_lineFeed : Leads Settled ['\n'] anywhere := by
  rintro e (rfl | rfl)
  · exact ⟨.feed, rfl, trivial⟩
  · exact ⟨.blank, rfl, trivial⟩

/-- A line feed behind what is not blank settles a line. -/
theorem leads_lineEnd : Leads solidly ['\n'] Settled := by
  rintro e rfl
  exact ⟨.feed, rfl, .inr rfl⟩

theorem Leads.settled (h : Leads p cs solidly) : Leads p cs Settled := h.weaken fun _ => .inl

theorem isTidy_of_leads (h : Leads anywhere cs solidly) : IsTidy cs := by
  obtain ⟨e, he, rfl⟩ := h .blank trivial
  exact he

theorem leads_join {sep : String} (hsep : Leads Settled sep.toList anywhere) {ss : List String}
    (h : ∀ s ∈ ss, Leads anywhere s.toList Settled) (hne : ss ≠ []) :
    Leads anywhere (join sep ss).toList Settled := by
  induction ss with
  | nil => exact absurd rfl hne
  | cons s ss ih =>
    obtain ⟨hs, hss⟩ := List.forall_mem_cons.mp h
    cases ss with
    | nil => exact hs
    | cons t ss =>
      rw [join, String.toList_append, String.toList_append]
      · exact (hs.append hsep).append (ih hss (List.cons_ne_nil t ss))
      · exact List.cons_ne_nil t ss

end

theorem follow?_line {l : List Char} (hl : '\n' ∉ l) (hne : l ≠ []) (e : Ending) :
    (e.follow? l = some .solid ∧ trimEnd l = l) ∨ e.follow? l = some .gap := by
  obtain ⟨front, c, rfl⟩ := l.eq_nil_or_concat'.resolve_left hne
  rw [List.mem_append, not_or, List.mem_singleton] at hl
  rw [follow?_of_not_mem hl.1 (Ne.symm hl.2)]
  cases hc : isBlank c with
  | true => exact .inr rfl
  | false => exact .inl ⟨rfl, trimEnd_append hc front⟩

end Componentry.Text

namespace Componentry.Formatting

open Text (Ending IsTidy trimEnd unlines)

/-- Lines as formatting leaves them: trimmed, squeezed, and with something in the last one. -/
structure AreTidy (afterBlank : Bool) (ls : List (List Char)) : Prop where
  trimmed : ls.map trimEnd = ls
  squeezed : squeezed afterBlank ls = ls
  last : dropBlankEnd ls = ls

theorem areTidy_singleton {l : List Char} (hne : l ≠ []) (htrim : trimEnd l = l) (b : Bool) :
    AreTidy b [l] where
  trimmed := by rw [List.map_singleton, htrim]
  squeezed := squeezed_cons hne b []
  last := dropBlankEnd_append hne [] []

theorem AreTidy.cons {l : List Char} {ls : List (List Char)} (h : AreTidy false ls) (hne : l ≠ [])
    (htrim : trimEnd l = l) (b : Bool) : AreTidy b (l :: ls) where
  trimmed := by rw [List.map_cons, htrim, h.trimmed]
  squeezed := by rw [squeezed_cons hne, h.squeezed]
  last := by
    have hdrop := dropBlankEnd_append hne [] ls
    rwa [List.nil_append, List.nil_append, h.last] at hdrop

theorem AreTidy.blank {ls : List (List Char)} (h : AreTidy true ls) (hne : ls ≠ []) :
    AreTidy false ([] :: ls) where
  trimmed := by rw [List.map_cons, h.trimmed]; rfl
  squeezed := by rw [squeezed_blank, h.squeezed]; rfl
  last := by
    obtain ⟨front, l, rfl⟩ := ls.eq_nil_or_concat'.resolve_left hne
    have hl : l ≠ [] := by
      rintro rfl
      have hlength := congrArg List.length h.last
      rw [dropBlankEnd, List.reverse_append, List.reverse_singleton, List.singleton_append,
        List.dropWhile_cons_of_pos rfl, List.length_reverse, List.length_append] at hlength
      have hle := (List.dropWhile_sublist List.isEmpty (l := front.reverse)).length_le
      rw [List.length_reverse] at hle
      simp at hlength
      omega
    exact dropBlankEnd_append hl ([] :: front) []

/-- By the lines: at the start of each, the text that is read ends with the line before it. -/
theorem areTidy_of_follow? {ls : List (List Char)} (hne : ls ≠ []) (hls : ∀ l ∈ ls, '\n' ∉ l)
    {e : Ending} (he : e = .feed ∨ e = .blank) (h : e.follow? (unlines ls) = some .solid) :
    AreTidy (e = .blank) ls := by
  induction ls generalizing e with
  | nil => exact absurd rfl hne
  | cons l ls ih =>
    obtain ⟨hl, hrest⟩ := List.forall_mem_cons.mp hls
    by_cases hlast : ls = []
    · subst hlast
      have hempty : l ≠ [] := by
        rintro rfl
        rcases he with rfl | rfl <;> cases h
      rcases Text.follow?_line hl hempty e with ⟨-, htrim⟩ | hgap
      · exact areTidy_singleton hempty htrim _
      · cases hgap.symm.trans h
    · rw [Text.unlines_cons hlast, Text.follow?_append] at h
      by_cases hempty : l = []
      · subst hempty
        rcases he with rfl | rfl
        · exact (ih hlast hrest (.inr rfl) h).blank hlast
        · cases h
      · rcases Text.follow?_line hl hempty e with ⟨hsolid, htrim⟩ | hgap
        · rw [hsolid] at h
          exact (ih hlast hrest (.inl rfl) h).cons hempty htrim _
        · rw [hgap] at h
          cases h

/-- Formatting leaves the lines of a tidy text alone. -/
theorem lines_of_isTidy {cs : List Char} (h : IsTidy cs) : lines cs = Text.lines cs := by
  have htidy : AreTidy true (Text.lines cs) := by
    refine areTidy_of_follow? (Text.splitAt_ne_nil '\n' cs)
      (fun l hl => Text.not_mem_of_mem_splitAt hl) (.inr rfl) ?_
    rw [← Text.lines, Text.unlines_lines]
    exact h
  rw [lines, htidy.trimmed, htidy.squeezed, htidy.last]

end Componentry.Formatting
