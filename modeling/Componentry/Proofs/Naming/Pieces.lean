import Componentry.Proofs.Naming.Stems
import Componentry.Text.Character

/-!
# Words of names in three passes

The words of a name can be found in three passes as well: all characters but letters, digits and
marks become marks, and marks at the two ends are dropped; a blank is put where an upper-case letter
follows a lower-case one or a digit; and the words are the runs between blanks and marks. A blank
that is put stands behind a letter or digit that no other blank is put before, so looking for the
places from left to right finds all of them.
-/

namespace Componentry.Naming

/-- The characters besides letters and digits that separate words as they are. -/
def isMark (c : Char) : Bool := c == '_' || c == '-'

def marked (c : Char) : Char := if isWordChar c || isMark c then c else '_'

/-- A text without the marks at its two ends. -/
def withoutMarks (cs : List Char) : List Char :=
  ((cs.dropWhile isMark).reverse.dropWhile isMark).reverse

/-- A text with blanks where words start behind other words. A pair that a blank is put into is
passed over as a whole. -/
def spaced : List Char → List Char
  | a :: b :: cs => if startsWord a b then a :: ' ' :: b :: spaced cs else a :: spaced (b :: cs)
  | cs => cs

def separates (c : Char) : Bool := Text.isBlank c || isMark c

/-- The runs of characters that do not separate words. The run at the start is continued from
`run`, last character first. -/
def runs (run : List Char) : List Char → List (List Char)
  | [] => if run.isEmpty then [] else [run.reverse]
  | c :: cs =>
    if separates c then (if run.isEmpty then [] else [run.reverse]) ++ runs [] cs
    else runs (c :: run) cs

def pieces (name : List Char) : List (List Char) :=
  runs [] (spaced (withoutMarks (name.map marked)))

section

variable {c d : Char} {word cs ds : List Char}

theorem isWordChar_marked (c : Char) : isWordChar (marked c) = isWordChar c := by
  unfold marked
  split_ifs with h
  · rfl
  · rw [Bool.or_eq_true, not_or, Bool.not_eq_true] at h
    rw [h.1]
    rfl

theorem marked_of_isWordChar (h : isWordChar c = true) : marked c = c :=
  if_pos (by rw [h, Bool.true_or])

theorem isWordChar_of_isMark (h : isMark c = true) : isWordChar c = false := by
  rw [isMark, Bool.or_eq_true, beq_iff_eq, beq_iff_eq] at h
  rcases h with rfl | rfl <;> decide

theorem isMark_marked (h : isWordChar c = false) : isMark (marked c) = true := by
  unfold marked
  split_ifs with hc
  · rwa [h, Bool.false_or] at hc
  · rfl

theorem separates_of_isMark (h : isMark c = true) : separates c = true := by
  rw [separates, h, Bool.or_true]

theorem separates_of_isWordChar (h : isWordChar c = true) : separates c = false := by
  have hmark : isMark c = false := Bool.eq_false_iff.mpr fun hmark => by
    rw [isWordChar_of_isMark hmark] at h
    cases h
  rw [isWordChar_iff] at h
  rw [separates, hmark, Bool.or_false, Bool.eq_false_iff]
  simp only [Text.isBlank, Text.inRanges, Text.blankRanges, ne_eq]
  simp
  omega

theorem collectWords_other (h : isWordChar c = false) (word cs : List Char) :
    collectWords word (c :: cs) = collectWords word [] ++ collectWords [] cs := by
  cases word with
  | nil =>
    rw [collectWords_nil_cons, h]
    rfl
  | cons p word =>
    rw [collectWords_cons, h]
    rfl

theorem collectWords_map_marked (word cs : List Char) :
    collectWords word (cs.map marked) = collectWords word cs := by
  induction cs generalizing word with
  | nil => rfl
  | cons c cs ih =>
    rw [List.map_cons]
    cases hc : isWordChar c with
    | true =>
      rw [marked_of_isWordChar hc]
      cases word with
      | nil => rw [collectWords_nil_cons, collectWords_nil_cons, ih, ih]
      | cons p word => rw [collectWords_cons, collectWords_cons, ih, ih, ih]
    | false =>
      rw [collectWords_other ((isWordChar_marked c).trans hc), collectWords_other hc, ih]

theorem collectWords_append_others (h : ∀ d ∈ ds, isWordChar d = false) (word cs : List Char) :
    collectWords word (cs ++ ds) = collectWords word cs := by
  induction cs generalizing word with
  | nil =>
    induction ds generalizing word with
    | nil => rfl
    | cons d ds ih =>
      obtain ⟨hd, hds⟩ := List.forall_mem_cons.mp h
      rw [List.nil_append, collectWords_other hd]
      exact (congrArg _ (ih hds [])).trans (List.append_nil _)
  | cons c cs ih =>
    cases word with
    | nil => rw [List.cons_append, collectWords_nil_cons, collectWords_nil_cons, ih, ih]
    | cons p word => rw [List.cons_append, collectWords_cons, collectWords_cons, ih, ih, ih]

theorem collectWords_withoutMarks (cs : List Char) :
    collectWords [] (withoutMarks cs) = collectWords [] cs := by
  have hstart (cs : List Char) : collectWords [] (cs.dropWhile isMark) = collectWords [] cs := by
    induction cs with
    | nil => rfl
    | cons c cs ih =>
      rw [List.dropWhile_cons]
      split_ifs with hc
      · rw [ih, collectWords_nil_cons, isWordChar_of_isMark hc]
        rfl
      · rfl
  have hend (cs : List Char) :
      collectWords [] (cs.reverse.dropWhile isMark).reverse = collectWords [] cs := by
    have hmarks : ∀ d ∈ (cs.reverse.takeWhile isMark).reverse, isWordChar d = false := fun d hd =>
      isWordChar_of_isMark (List.all_eq_true.mp List.all_takeWhile d (List.mem_reverse.mp hd))
    rw [← collectWords_append_others hmarks, ← List.reverse_append, List.takeWhile_append_dropWhile,
      List.reverse_reverse]
  rw [withoutMarks, hend, hstart]

/-- A text behind a character with blanks where words start. -/
def gapped (p : Char) : List Char → List Char
  | [] => []
  | c :: cs => (if startsWord p c then [' '] else []) ++ c :: gapped c cs

theorem startsWord_of_not_stem (h : isStemChar c = false) (d : Char) : startsWord c d = false := by
  rw [isStemChar] at h
  rw [startsWord, h, Bool.false_and]

theorem startsWord_of_not_isWordChar (h : isWordChar d = false) (c : Char) :
    startsWord c d = false := by
  rw [startsWord, Bool.and_eq_false_iff]
  refine .inr (Bool.eq_false_iff.mpr fun hupper => ?_)
  rw [isWordChar_iff.mpr (.inl (.inl (isUpper_iff.mp hupper)))] at h
  cases h

/-- A character that a word starts with has no other word start right behind it. -/
theorem not_startsWord {a : Char} (h : startsWord a c = true) (d : Char) :
    startsWord c d = false := by
  refine startsWord_of_not_stem (Bool.eq_false_iff.mpr fun hstem => ?_) d
  rw [startsWord_of_isStemChar hstem] at h
  cases h

theorem spaced_cons (p : Char) (cs : List Char) : spaced (p :: cs) = p :: gapped p cs := by
  induction cs generalizing p with
  | nil => rfl
  | cons c cs ih =>
    rw [spaced, gapped]
    split_ifs with hstarts
    · have hskipped : spaced (c :: cs) = c :: spaced cs := by
        cases cs with
        | nil => rfl
        | cons d cs => rw [spaced, not_startsWord hstarts, if_neg Bool.false_ne_true]
      rw [← hskipped, ih c]
      rfl
    · rw [ih c]
      rfl

/-- Runs that are being collected are words that are being collected. -/
theorem runs_gapped (h : ∀ c ∈ cs, isWordChar c = false → isMark c = true) :
    (∀ p run, runs (p :: run) (gapped p cs) = collectWords (p :: run) cs) ∧
      ∀ p, isMark p = true → runs [] (gapped p cs) = collectWords [] cs := by
  induction cs with
  | nil => exact ⟨fun _ _ => rfl, fun _ _ => rfl⟩
  | cons c cs ih =>
    obtain ⟨hc, hcs⟩ := List.forall_mem_cons.mp h
    obtain ⟨hword, hmark⟩ := ih hcs
    cases hletter : isWordChar c with
    | true =>
      have hrun (run : List Char) :
          runs run (c :: gapped c cs) = collectWords (c :: run) cs := by
        rw [runs, separates_of_isWordChar hletter, if_neg Bool.false_ne_true, hword]
      refine ⟨fun p run => ?_, fun p hp => ?_⟩
      · rw [gapped, collectWords_cons, hletter, if_pos rfl]
        split_ifs
        · exact congrArg ((p :: run).reverse :: ·) (hrun [])
        · exact hrun (p :: run)
      · have hstem : isStemChar p = false := Bool.eq_false_iff.mpr fun hstem =>
          Bool.eq_false_iff.mp (isWordChar_of_isMark hp) (isWordChar_of_isStemChar hstem)
        rw [gapped, startsWord_of_not_stem hstem, collectWords_nil_cons, hletter, if_pos rfl]
        exact hrun []
    | false =>
      have hrun (run : List Char) : runs run (c :: gapped c cs) = collectWords run (c :: cs) := by
        rw [runs, separates_of_isMark (hc hletter), if_pos rfl, hmark c (hc hletter),
          collectWords_other hletter]
        rfl
      refine ⟨fun p run => ?_, fun p _ => ?_⟩
      · rw [gapped, startsWord_of_not_isWordChar hletter]
        exact hrun (p :: run)
      · rw [gapped, startsWord_of_not_isWordChar hletter]
        exact hrun []

/-- The words of a name are what the three passes find. -/
theorem pieces_eq_words (cs : List Char) : pieces cs = words cs := by
  have hmarked : ∀ c ∈ withoutMarks (cs.map marked), isWordChar c = false → isMark c = true := by
    intro c hc hother
    have hmem : c ∈ cs.map marked := by
      rw [withoutMarks, List.mem_reverse] at hc
      have hc := (List.dropWhile_sublist isMark).subset hc
      exact (List.dropWhile_sublist isMark).subset (List.mem_reverse.mp hc)
    obtain ⟨d, -, rfl⟩ := List.mem_map.mp hmem
    exact isMark_marked ((isWordChar_marked d).symm.trans hother)
  have hruns {cs : List Char} (h : ∀ c ∈ cs, isWordChar c = false → isMark c = true) :
      runs [] (spaced cs) = collectWords [] cs := by
    have hgapped : spaced cs = gapped '_' cs := by
      cases cs with
      | nil => rfl
      | cons c cs =>
        rw [spaced_cons]
        rfl
    rw [hgapped]
    exact (runs_gapped h).2 '_' rfl
  rw [pieces, hruns hmarked, collectWords_withoutMarks, collectWords_map_marked, words]

end

/-- A stem is made from the words that the three passes find. -/
theorem fileStem_eq_pieces (name : String) : fileStem name =
    match pieces name.toList with
    | [] => "component"
    | ws => Text.join "-" (ws.map fun w => String.ofList (w.map Char.toLower)) := by
  rw [pieces_eq_words]
  cases h : words name.toList <;> simp only [fileStem, h]

end Componentry.Naming
