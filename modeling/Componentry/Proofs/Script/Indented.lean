import Componentry.Program.Machine
import Componentry.Proofs.Script.Roomy

/-!
# Printing at a level

A node is printed at a level as it is printed without indentation, with the indentation of the level
behind every line feed. A sketch shows when this is so: the ends of lines that it has in the open
are followed by the indentation, those inside its pieces are not. So the only exception is a literal
key that is written bare although a line feed stands behind it.
-/

namespace Componentry

namespace Script

/-- A text with a margin behind every line feed. -/
def indented (margin s : String) : String :=
  String.ofList (s.toList.flatMap fun c => if c = '\n' then '\n' :: margin.toList else [c])

theorem indented_append (margin s t : String) :
    indented margin (s ++ t) = indented margin s ++ indented margin t := by
  simp [indented]

theorem indented_of_not_mem {s : String} (h : '\n' ∉ s.toList) (margin : String) :
    indented margin s = s := by
  have hsingle : s.toList.flatMap (fun c => if c = '\n' then '\n' :: margin.toList else [c]) =
      s.toList.flatMap fun c => [c] :=
    List.flatMap_congr fun c hc => if_neg (ne_of_mem_of_not_mem hc h)
  rw [indented, hsingle, List.flatMap_singleton', String.ofList_toList]

theorem indented_empty (s : String) : indented "" s = s := by
  have hsingle : (fun c => if c = '\n' then '\n' :: "".toList else [c]) = fun c => [c] :=
    funext fun c => by split_ifs with h <;> simp [h]
  rw [indented, hsingle, List.flatMap_singleton', String.ofList_toList]

theorem length_indented (margin s : String) :
    (indented margin s).length = s.length + s.toList.count '\n' * margin.length := by
  rw [indented, String.length_ofList, ← String.length_toList]
  induction s.toList with
  | nil => simp
  | cons c cs ih =>
    rw [List.flatMap_cons, List.length_append, ih, List.count_cons, List.length_cons]
    by_cases hc : c = '\n'
    · simp [hc, Nat.add_mul, String.length_toList]
      omega
    · simp [hc]
      omega

theorem repeated_add (s : String) (m n : Nat) :
    Text.repeated s (m + n) = Text.repeated s m ++ Text.repeated s n := by
  induction m with
  | zero => rw [Nat.zero_add, Text.repeated, String.empty_append]
  | succ m ih => rw [Nat.succ_add, Text.repeated, Text.repeated, ih, String.append_assoc]

namespace Sketch

/-- How many lines end inside pieces of text. -/
def strays : Sketch → Nat
  | [] => 0
  | .text s :: rest => s.toList.count '\n' + strays rest
  | .lineEnd _ :: rest => strays rest

theorem strays_eq_zero_iff (k : Sketch) : k.strays = 0 ↔ k.IsSolid := by
  induction k with
  | nil => simp [strays]
  | cons x k ih =>
    cases x with
    | text s => rw [strays, Nat.add_eq_zero_iff, List.count_eq_zero, ih, isSolid_text]
    | lineEnd depth => rw [strays, ih, isSolid_lineEnd]

variable {ind : String}

theorem indented_lineEnd (hind : '\n' ∉ ind.toList) (level depth : Nat) :
    indented (Text.repeated ind level) ("\n" ++ Text.repeated ind (0 + depth)) =
      "\n" ++ Text.repeated ind (level + depth) := by
  rw [indented_append, Nat.zero_add, indented_of_not_mem (Text.not_mem_repeated hind depth),
    repeated_add]
  simp [indented, String.append_assoc]

theorem laid_of_isSolid (hind : '\n' ∉ ind.toList) (level : Nat) {k : Sketch} (h : k.IsSolid) :
    laid ind level k = indented (Text.repeated ind level) (laid ind 0 k) := by
  induction k with
  | nil => simp [laid, indented]
  | cons x k ih =>
    cases x with
    | text s =>
      obtain ⟨hs, hk⟩ := isSolid_text.mp h
      rw [laid, laid, indented_append, indented_of_not_mem hs, ih hk]
    | lineEnd depth =>
      rw [laid, laid, indented_append, indented_lineEnd hind, ih (isSolid_lineEnd.mp h)]

/-- The indentation of the level is missing behind each line feed that is not in the open. -/
theorem length_laid (hind : '\n' ∉ ind.toList) (level : Nat) (k : Sketch) :
    (laid ind level k).length + k.strays * (Text.repeated ind level).length =
      (indented (Text.repeated ind level) (laid ind 0 k)).length := by
  induction k with
  | nil => simp [laid, strays, indented]
  | cons x k ih =>
    cases x with
    | text s =>
      rw [laid, laid, indented_append, strays, String.length_append, String.length_append,
        length_indented, ← ih, Nat.add_mul]
      omega
    | lineEnd depth =>
      rw [laid, laid, indented_append, indented_lineEnd hind, strays,
        String.length_append (_ ++ _), String.length_append (_ ++ _), ← ih, Nat.add_assoc]

/-- A level without indentation is like the outermost one. -/
theorem laid_of_empty {level : Nat} (h : Text.repeated ind level = "") (k : Sketch) :
    laid ind level k = laid ind 0 k := by
  induction k with
  | nil => rfl
  | cons x k ih =>
    cases x with
    | text s => rw [laid, laid, ih]
    | lineEnd depth => rw [laid, laid, repeated_add, h, String.empty_append, Nat.zero_add, ih]

/-- A sketch is laid out at a level by indenting its text just if no line feed is hidden in a piece
or the level has no indentation. -/
theorem laid_eq_indented_iff (hind : '\n' ∉ ind.toList) (level : Nat) (k : Sketch) :
    laid ind level k = indented (Text.repeated ind level) (laid ind 0 k) ↔
      (Text.repeated ind level ≠ "" → k.IsSolid) := by
  constructor
  · intro heq hne
    -- Every hidden line feed makes the laid out text shorter than the indented one.
    have hlength := length_laid hind level k
    rw [← heq, Nat.add_eq_left, Nat.mul_eq_zero] at hlength
    have hmargin : (Text.repeated ind level).length ≠ 0 := mt String.length_eq_zero_iff.mp hne
    exact (strays_eq_zero_iff k).mp (hlength.resolve_right hmargin)
  · intro h
    by_cases hempty : Text.repeated ind level = ""
    · rw [hempty, indented_empty, laid_of_empty hempty]
    · exact laid_of_isSolid hind level (h hempty)

end Sketch

end Script

open Script

/-- What is printed at the outermost level is printed at every other with the indentation of the
level behind every line feed, just if the level has no indentation or no key that is written bare
ends with a line feed. -/
theorem printNode_indented_iff [Machine] {s : Settings} {n : Node}
    (hn : n.Everywhere Node.IsTyped) (hline : n.Everywhere Node.StaysOnLine) {v : Value}
    (h : printNode s.style 0 n = .ok v) :
    ∃ text, v = .str text ∧ ∀ level, ∃ text', s.PrintsAs level n text' ∧
      (text' = indented (Text.repeated s.unit level) text ↔
        (Text.repeated s.unit level ≠ "" → n.Everywhere Node.KeepsKey)) := by
  obtain ⟨text, hv, hroomy, -⟩ := roomy_of_style hn h
  obtain ⟨k, hk⟩ := drawn_of_style hn h
  obtain rfl : text = k.laid s.unit 0 :=
    Value.str.inj (Except.ok.inj (hroomy.symm.trans (hk.printsAs 0).roomy))
  refine ⟨_, hv, fun level => ⟨_, hk.printsAs level, ?_⟩⟩
  rw [Sketch.laid_eq_indented_iff s.lineFeed_not_mem_unit, hk.solid hline]

/-- An object whose one key is written bare and ends with a line feed. -/
def hiddenLineFeed : Node := .objectExpression
  [.objectProperty (.stringLiteral (.str "b\n")) (.numericLiteral (.int 1)) (.bool false)]

section

open Componentry.Program

/-- At the first level the line behind the key has no indentation. -/
theorem printNode_indented_iff_hidden : ∃ text,
    printNode Settings.default.style 0 hiddenLineFeed = .ok (.str text) ∧
      printNode Settings.default.style 1 hiddenLineFeed ≠ .ok (.str (indented "  " text)) := by
  have hnodes {P : Node → Prop} (hobject : P hiddenLineFeed)
      (hmember : P (.objectProperty (.stringLiteral (.str "b\n")) (.numericLiteral (.int 1))
        (.bool false)))
      (hkey : P (.stringLiteral (.str "b\n"))) (hvalue : P (.numericLiteral (.int 1))) :
      hiddenLineFeed.Everywhere P :=
    .intro hobject (List.forall_mem_singleton.mpr (.intro hmember (List.forall_mem_cons.mpr
      ⟨.intro hkey nofun, List.forall_mem_singleton.mpr (.intro hvalue nofun)⟩)))
  have hprint : printNode Settings.default.style 0 hiddenLineFeed =
      .ok (.str "\x7b\n  b\n: 1\n\x7d") := rfl
  obtain ⟨text, htext, hlevels⟩ := printNode_indented_iff
    (hnodes trivial ⟨false, rfl, nofun⟩ ⟨_, rfl⟩ (.inl (.inl ⟨1, rfl⟩)))
    (hnodes trivial trivial trivial trivial) hprint
  obtain ⟨text', ⟨-, hheld⟩, hiff⟩ := hlevels 1
  refine ⟨text, hprint.trans (congrArg _ htext), fun hindented => ?_⟩
  have htext' : text' = indented "  " text := by
    rcases hheld with hheld | ⟨f, -, hheld⟩
    · exact Value.str.inj (Except.ok.inj (hheld.symm.trans hindented))
    · cases hindented.symm.trans hheld
  have hkeeps := hiff.mp htext' (by decide)
  exact absurd ((hkeeps.children _ List.mem_cons_self).here "b\n" rfl (by decide)) (by decide)

end

end Componentry
