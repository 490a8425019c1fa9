import Componentry.Program.Machine
import Componentry.Proofs.Generation.Formatted
import Componentry.Proofs.Script.Roomy

/-!
# What indentation changes

The settings of indentation show in printed text only at the beginnings of lines. Two layouts of one
sketch break the same lines, also within its pieces, and differ in the spaces and tabs in front of
them alone; the first lines are equal.
-/

namespace Componentry

namespace Script

/-- A line without the spaces and tabs in front of it. -/
def withoutMargin (line : List Char) : List Char := line.dropWhile fun c => c = ' ' || c = '\t'

/-- Two texts have the same lines but for the spaces and tabs in front of them. -/
def SameLines (s t : String) : Prop :=
  (Text.lines s.toList).map withoutMargin = (Text.lines t.toList).map withoutMargin

def IsMargin (cs : List Char) : Prop := ∀ c ∈ cs, c = ' ' ∨ c = '\t'

theorem isMargin_repeated {s : String} (h : IsMargin s.toList) (n : Nat) :
    IsMargin (Text.repeated s n).toList := fun c hc => h c (Text.mem_of_mem_repeated hc)

theorem IsMargin.lineFeed_not_mem {cs : List Char} (h : IsMargin cs) : '\n' ∉ cs := fun hmem => by
  rcases h _ hmem with heq | heq <;> cases heq

theorem IsMargin.withoutMargin_append {margin : List Char} (h : IsMargin margin)
    (line : List Char) : withoutMargin (margin ++ line) = withoutMargin line :=
  List.dropWhile_append_of_pos fun c hc => by
    rcases h c hc with rfl | rfl <;> rfl

/-- Two texts have the same first line, and their other lines are the same but for margins. -/
def Aligned (cs ds : List Char) : Prop :=
  ∃ first rest rest', Text.lines cs = first :: rest ∧ Text.lines ds = first :: rest' ∧
    rest.map withoutMargin = rest'.map withoutMargin

theorem Aligned.sameLines {s t : String} (h : Aligned s.toList t.toList) : SameLines s t := by
  obtain ⟨first, rest, rest', hs, ht, heq⟩ := h
  rw [SameLines, hs, ht, List.map_cons, List.map_cons, heq]

/-- What stands in front of a text goes before its first line. -/
theorem lines_append (cs : List Char) {ds first : List Char} {rest : List (List Char)}
    (h : Text.lines ds = first :: rest) :
    Text.lines (cs ++ ds) = Text.lines (cs ++ first) ++ rest := by
  induction cs with
  | nil =>
    have hfirst : '\n' ∉ first := Text.not_mem_of_mem_splitAt (h ▸ List.mem_cons_self)
    exact h.trans (congrArg (· ++ rest) (Text.splitAt_of_not_mem hfirst).symm)
  | cons c cs ih =>
    by_cases hc : c = '\n'
    · subst hc
      exact congrArg ([] :: ·) ih
    · obtain ⟨l, ls, hl⟩ := List.exists_cons_of_ne_nil (Text.splitAt_ne_nil '\n' (cs ++ first))
      rw [Text.lines, Text.lines, hl] at ih
      exact (Text.splitAt_cons hc ih).trans
        (congrArg (· ++ rest) (Text.splitAt_cons hc hl)).symm

theorem Aligned.append (cs : List Char) {ds es : List Char} (h : Aligned ds es) :
    Aligned (cs ++ ds) (cs ++ es) := by
  obtain ⟨first, rest, rest', hds, hes, heq⟩ := h
  -- The first line may end up behind other characters, so it has to be the same with its margin.
  obtain ⟨l, ls, hl⟩ := List.exists_cons_of_ne_nil (Text.splitAt_ne_nil '\n' (cs ++ first))
  refine ⟨l, ls ++ rest, ls ++ rest', ?_, ?_, by rw [List.map_append, List.map_append, heq]⟩
  · rw [lines_append cs hds, Text.lines, hl, List.cons_append]
  · rw [lines_append cs hes, Text.lines, hl, List.cons_append]

/-- Behind a line end, margins do not count. -/
theorem Aligned.lineEnd {margin margin' cs ds : List Char} (hmargin : IsMargin margin)
    (hmargin' : IsMargin margin') (h : Aligned cs ds) :
    Aligned ('\n' :: (margin ++ cs)) ('\n' :: (margin' ++ ds)) := by
  obtain ⟨first, rest, rest', hcs, hds, heq⟩ := h
  refine ⟨[], _, _, congrArg ([] :: ·) (Text.splitAt_prepend hmargin.lineFeed_not_mem hcs),
    congrArg ([] :: ·) (Text.splitAt_prepend hmargin'.lineFeed_not_mem hds), ?_⟩
  rw [List.map_cons, List.map_cons, hmargin.withoutMargin_append,
    hmargin'.withoutMargin_append, heq]

theorem aligned_laid {ind ind' : String} (hind : IsMargin ind.toList) (hind' : IsMargin ind'.toList)
    (level level' : Nat) (k : Sketch) :
    Aligned (Sketch.laid ind level k).toList (Sketch.laid ind' level' k).toList := by
  induction k with
  | nil => exact ⟨[], [], [], rfl, rfl, rfl⟩
  | cons x k ih =>
    cases x with
    | text s =>
      rw [Sketch.laid, Sketch.laid, String.toList_append, String.toList_append]
      exact ih.append s.toList
    | lineEnd depth =>
      have h := Aligned.lineEnd (isMargin_repeated hind (level + depth))
        (isMargin_repeated hind' (level' + depth)) ih
      simpa [Sketch.laid] using h

end Script

open Script

/-- Under settings with equal quotes and statement ends, what is printed under one is printed under
the other with the same lines but for the spaces and tabs in front of them, unless there is no room
for a margin of the other. -/
theorem print_sameLines [Machine] {s s' : Settings} (hquote : s.quote = s'.quote)
    (hterminator : s.terminator = s'.terminator) {n : Node} (hn : n.Everywhere Node.IsTyped)
    {v : Value} (h : print s.style n = .ok v) :
    ∃ text text', v = .str text ∧ s'.PrintsAs 0 n text' ∧ SameLines text text' := by
  obtain ⟨text, hv, hroomy, -⟩ := roomy_of_style hn h
  obtain ⟨k, hk⟩ := drawn_of_style hn h
  obtain rfl : text = k.laid s.unit 0 :=
    Value.str.inj (Except.ok.inj (hroomy.symm.trans (hk.printsAs 0).roomy))
  have hk' : Drawn s'.roomy n k := by
    refine ⟨hk.toShows, fun margin level => ?_⟩
    have hstyle : s'.roomy.under margin = s.roomy.under margin := by
      rw [Settings.roomy, Settings.roomy, hquote, hterminator]
      rfl
    rw [hstyle]
    exact hk.print margin level
  exact ⟨_, _, hv, hk'.printsAs 0, (aligned_laid s.unit_chars s'.unit_chars 0 0 k).sameLines⟩

section

open Componentry.Program

def tabbed : Settings := Settings.default.put .useTabs (.bool true)

def nestedRows : Node :=
  .arrayExpression [.arrayExpression [.numericLiteral (.int 1)], .numericLiteral (.int 2)]

/-- With tabs in the place of blanks only the margins change. -/
theorem print_sameLines_tabs : ∃ text text',
    print Settings.default.style nestedRows = .ok (.str text) ∧
    print tabbed.style nestedRows = .ok (.str text') ∧
    text ≠ text' ∧ SameLines text text' := by
  have hnumber (i : Int) : (Node.numericLiteral (.int i)).Everywhere Node.IsTyped :=
    .intro (.inl (.inl ⟨i, rfl⟩)) nofun
  have htyped : nestedRows.Everywhere Node.IsTyped :=
    .intro trivial (List.forall_mem_cons.mpr
      ⟨.intro trivial (List.forall_mem_singleton.mpr (hnumber 1)),
        List.forall_mem_singleton.mpr (hnumber 2)⟩)
  have hblanks : print Settings.default.style nestedRows = .ok (.str "[\n  [1],\n  2\n]") := rfl
  have htabs : print tabbed.style nestedRows = .ok (.str "[\n\t[1],\n\t2\n]") := rfl
  have hquote : Settings.default.quote = tabbed.quote := rfl
  have hterminator : Settings.default.terminator = tabbed.terminator := rfl
  obtain ⟨text, text', htext, hprints, hlines⟩ :=
    print_sameLines hquote hterminator htyped hblanks
  cases htext
  cases hprints.eq_of_print htabs
  exact ⟨_, _, hblanks, htabs, by decide, hlines⟩

end

end Componentry
