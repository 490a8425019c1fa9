import Componentry.Proofs.Template.Found

/-!
# The renderer of the program and the frames

The sources of the two frames are read as their parts, and the renderer of the program renders these
as what the frames stand for.
-/

namespace Componentry.Program.Template

open Componentry.Template

def markupParts : List Part := [
  .choice (.name "header") [.text "<!-- ", .output (.name "header"), .text " -->\n"] [],
  .text "<script>\n", .output (.name "script"), .text "\n</script>"]

set_option maxRecDepth 100000 in
theorem parts_markup : parts Frame.markup.source.toList = .ok markupParts := by rfl

theorem names_markupParts : (namesOfParts markupParts).eraseDups = ["header", "script"] := by decide

def plainParts : List Part := [
  .choice (.name "header") [.output (.filter (.name "header") commentFilter []), .text "\n"] [],
  .output (.name "script")]

set_option maxRecDepth 100000 in
theorem parts_plain : parts Frame.plain.source.toList = .ok plainParts := by rfl

theorem names_plainParts : (namesOfParts plainParts).eraseDups = ["header", "script"] := by decide

theorem evaluate_name (scope : Scope) (name : String) :
    Expr.evaluate scope (.name name) = .ok (scope.lookup name) := by rw [Expr.evaluate]

theorem evaluate_comment {scope : Scope} {name s : String}
    (h : scope.lookup name = .value (.str s)) :
    Expr.evaluate scope (.filter (.name name) commentFilter []) =
      .ok (.value (.str (comment "//" s))) := by
  have hmarker : markerOf [] = .ok "//" := rfl
  have hshown : (Evaluated.value (.str s)).shown = .ok s := rfl
  simp [Expr.evaluate, evaluateArgs, h, hmarker, hshown]

def frameScope (f : Frame) (header : Option String) (script : String) : Scope :=
  ⟨f.name, Frame.context header script, ["header", "script"]⟩

variable {header : Option String}

theorem lookup_header (f : Frame) (header : Option String) (script : String) :
    (frameScope f header script).lookup "header" = .value (header.elim .null .str) := rfl

theorem lookup_script (f : Frame) (header : Option String) (script : String) :
    (frameScope f header script).lookup "script" = .value (.str script) := rfl

theorem shown_str (s : String) : (Evaluated.value (.str s)).shown = .ok s := rfl

theorem truthy_str {s : String} (h : s ≠ "") : (Evaluated.value (.str s)).truthy = true := by
  have hempty : s.isEmpty = false := by
    rw [← Bool.not_eq_true, String.isEmpty_iff]
    exact h
  change (!s.isEmpty) = true
  rw [hempty]
  rfl

theorem truthy_null : (Evaluated.value .null).truthy = false := rfl

theorem render_markupParts (h : header ≠ some "") (script : String) :
    render Frame.markup.name markupParts (Frame.context header script) =
      .ok (Frame.markup.fill header script) := by
  have hkeys : checkKeys (Frame.context header script) = .ok () := rfl
  have hmarkup : isMarkup Frame.markup.name = false := by decide
  rw [render, hkeys, hmarkup, names_markupParts, markupParts]
  change renderAll false (frameScope Frame.markup header script) _ = _
  cases header with
  | none =>
    simp [renderAll, Part.render, evaluate_name, lookup_header, lookup_script, truthy_null,
      shown_str, inserted, Frame.fill, Frame.markup, String.append_assoc]
  | some s =>
    have htruthy := truthy_str fun hs => h (congrArg some hs)
    simp [renderAll, Part.render, evaluate_name, lookup_header, lookup_script, htruthy, shown_str,
      inserted, Frame.fill, Frame.markup, String.append_assoc]

theorem render_plainParts (h : header ≠ some "") (script : String) :
    render Frame.plain.name plainParts (Frame.context header script) =
      .ok (Frame.plain.fill header script) := by
  have hkeys : checkKeys (Frame.context header script) = .ok () := rfl
  have hmarkup : isMarkup Frame.plain.name = false := by decide
  rw [render, hkeys, hmarkup, names_plainParts, plainParts]
  change renderAll false (frameScope Frame.plain header script) _ = _
  cases header with
  | none =>
    have hfill : Frame.plain.fill none script = script := by simp [Frame.fill, Frame.plain]
    simp [renderAll, Part.render, evaluate_name, lookup_header, lookup_script, truthy_null,
      shown_str, inserted, hfill]
  | some s =>
    have htruthy := truthy_str fun hs => h (congrArg some hs)
    have hcomment := evaluate_comment (lookup_header Frame.plain (some s) script)
    have hfill : Frame.plain.fill (some s) script = comment "//" s ++ "\n" ++ script := by
      simp [Frame.fill, Frame.plain]
    simp [renderAll, Part.render, evaluate_name, hcomment, lookup_header, lookup_script, htruthy,
      shown_str, inserted, hfill, String.append_assoc]

theorem file?_of_frame {f : Frame} (hf : f ∈ Frame.all) (files : FileTree) (sources : Sources)
    (context : Entries Value) :
    file? ⟨files, sources, f.name, context⟩ = sources.front? files f.name := by
  have hnames : fileNames? f.name = some [f.name] := by
    simp only [Frame.all, List.mem_cons, List.not_mem_nil, or_false] at hf
    rcases hf with rfl | rfl <;> decide
  rw [file?, Sources.front?, hnames]
  rfl

/-- The renderer of the program fills the frames. -/
theorem fillsFrames : FillsFrames := by
  intro files sources f header script hf hgiven hfront hheader
  have hsource : sourceFor (inUse []) ⟨files, sources, f.name, Frame.context header script⟩ =
      .ok (f.source, true) := by
    have hsettled : Settled files sources (inUse []) := settled_nil
    rw [hsettled.sourceFor_eq ⟨rfl, rfl⟩, found, file?_of_frame hf, hfront, given?, hgiven]
  have htext : textOf ⟨files, sources, f.name, Frame.context header script⟩ f.source =
      .ok (f.fill header script) := by
    simp only [Frame.all, List.mem_cons, List.not_mem_nil, or_false] at hf
    rw [textOf]
    rcases hf with rfl | rfl
    · rw [parts_markup]
      exact render_markupParts hheader script
    · rw [parts_plain]
      exact render_plainParts hheader script
  rw [render_eq, hsource, Result.ok_bind, htext]
  rfl

end Componentry.Program.Template
