import Componentry.Proofs.Component.Flawed
import Componentry.Proofs.Generation.Unsupported
import Componentry.Proofs.Template.Framed
import Componentry.Settings.Check

/-!
# How generation ends

For a description and settings that nothing is warned about, generation without templates of its own
ends in one of three ways. A document with a flaw gives a report of its first flaw, with nothing
else in it. A document without a flaw gives a report of the generated code, unless a margin of the
code is refused; that is a fault.
-/

namespace Componentry

open Template (FillsFrames)

namespace Settings

theorem of_warnUnless {fine : Bool} {warning : String} {about : Option String}
    (h : warnUnless fine warning about = .ok []) : fine = true := by
  cases fine with
  | true => rfl
  | false =>
    obtain ⟨_, -, h⟩ := Result.bind_eq_ok.mp h
    cases h

theorem exists_of_isOneOf {options : List String} {v : Value} (h : isOneOf options v = .ok true) :
    ∃ t ∈ options, v = .str t := by
  unfold isOneOf at h
  split at h
  · cases h
  · split_ifs at h
    · obtain ⟨t, ht, htext⟩ := List.any_eq_true.mp (Except.ok.inj h)
      refine ⟨t, ht, ?_⟩
      cases v with
      | str u => exact congrArg Value.str (beq_iff_eq.mp htext)
      | _ => cases htext
    · cases h

/-- Settings that nothing is warned about indent by something, and their lines have an end. -/
theorem checked {files : FileTree} {s : Settings} (h : s.warnings files = .ok []) :
    isPositive (s.value .indentSize) = true ∧ ∃ ending, s.value .lineEnding = .str ending := by
  unfold warnings at h
  obtain ⟨_, -, h⟩ := Result.bind_eq_ok.mp h
  obtain ⟨a, -, h⟩ := Result.bind_eq_ok.mp h
  obtain ⟨_, -, h⟩ := Result.bind_eq_ok.mp h
  obtain ⟨b, -, h⟩ := Result.bind_eq_ok.mp h
  obtain ⟨c, hsize, h⟩ := Result.bind_eq_ok.mp h
  obtain ⟨fine, hending, h⟩ := Result.bind_eq_ok.mp h
  obtain ⟨d, hwarning, h⟩ := Result.bind_eq_ok.mp h
  obtain ⟨_, -, h⟩ := Result.bind_eq_ok.mp h
  obtain ⟨e, -, h⟩ := Result.bind_eq_ok.mp h
  obtain ⟨_, -, h⟩ := Result.bind_eq_ok.mp h
  obtain ⟨f, -, h⟩ := Result.bind_eq_ok.mp h
  have hnil := Except.ok.inj h
  simp only [List.append_eq_nil_iff] at hnil
  obtain ⟨⟨⟨⟨-, rfl⟩, rfl⟩, -⟩, -⟩ := hnil
  obtain rfl : fine = true := of_warnUnless hwarning
  obtain ⟨t, -, ht⟩ := exists_of_isOneOf hending
  exact ⟨of_warnUnless hsize, t, ht⟩

section

variable [Machine] {s : Settings}

/-- One indentation by something is missing only if it is refused. -/
theorem refusal_of_indent (hsize : isPositive (s.value .indentSize) = true) {f : Failure}
    (h : s.indent = .error f) :
    ∃ e, Machine.refusal? s.unit.length = some e ∧ f = .fault e := by
  unfold indent at h
  unfold unit
  split_ifs at h ⊢
  obtain ⟨n, hn, hpositive⟩ : ∃ n, count (s.value .indentSize) = .ok n ∧ 1 ≤ n := by
    cases hvalue : s.value .indentSize with
    | int i => exact ⟨i, rfl, by simpa [hvalue, isPositive] using hsize⟩
    | bool b =>
      rw [hvalue, isPositive] at hsize
      exact ⟨1, by rw [count, hsize]; rfl, le_rfl⟩
    | _ =>
      rw [hvalue] at hsize
      cases hsize
  have hlength : (spaces n).length = n.toNat := by
    rw [spaces, String.length_ofList, List.length_replicate]
  have hrange : ¬ n < -Int.pow 2 63 := by
    have : (0 : Int) ≤ Int.pow 2 63 := by decide
    omega
  rw [blanks, hn, Result.ok_bind, if_neg hrange] at h
  rw [hn, hlength]
  rcases makeRoom_cases n.toNat with hroom | ⟨e, he, hroom⟩
  · rw [hroom] at h
    cases h
  · rw [hroom] at h
    exact ⟨e, he, (Except.error.inj h).symm⟩

/-- What a text lacks is room for a run of blanks. -/
theorem Lacks.refusal (hsize : isPositive (s.value .indentSize) = true) {length : Nat} {f : Failure}
    (h : s.Lacks length f) : ∃ size e, (size = s.unit.length ∨ size ≤ length) ∧
      Machine.refusal? size = some e ∧ f = .fault e := by
  cases h with
  | unit h =>
    obtain ⟨e, he, hf⟩ := refusal_of_indent hsize h
    exact ⟨_, e, .inl rfl, he, hf⟩
  | margin hle h => exact ⟨_, _, .inr hle, h, rfl⟩

end

end Settings

section

variable {d : Document} {s : Settings}

theorem Document.IsRead.declaration (h : d.IsRead) (hsound : d.IsSound) :
    ∃ ms, d.declaration.result = .ok (.exportDefault (.objectExpression
        (Component.option "name" (.stringLiteral d.component.name) :: ms))) ∧
      Script.Assembled written.limited .expression (.objectExpression
        (Component.option "name" (.stringLiteral d.component.name) :: ms)) :=
  (h.isPlain hsound.kinds).declaration
    (fun v hv => (hsound.references v hv).imp fun _ hk => ⟨hk.1, hk.2, hk.2⟩) h.state h.handlers

variable [Machine]

theorem Document.IsRead.printed (h : d.IsRead) (hsound : d.IsSound) (s : Settings) :
    ∃ n text, d.declaration.result = .ok n ∧ s.PrintsAs 0 n text := by
  obtain ⟨ms, hms, hassembled⟩ := h.declaration hsound
  have htyped : (Node.exportDefault _).Everywhere Node.IsTyped := .intro trivial
    (List.forall_mem_singleton.mpr (hassembled.isTyped fun _ hv => hv.1))
  obtain ⟨text, htext, -⟩ := hassembled.brings s.readable_roomy (fun _ hv => hv)
    (fun _ hk => (Bool.and_eq_true_iff.mp hk).1) 0
  exact ⟨_, _, hms, printsAs_of_roomy htyped (Script.print_declaration htext)⟩

variable [Template.Renderer] {files : FileTree}

theorem Document.IsRead.report_flaw (h : d.IsRead) {e : GenerationError} (hflaw : d.Flaw e)
    (s : Settings) (files : FileTree) :
    ((Generator.ofSettings s).report files d).1 = .ok (.error e) :=
  Generator.report_of_declaration (h.declaration_error hflaw) files

theorem Document.IsRead.report_printed (hfills : FillsFrames) (h : d.IsRead)
    (hdirectory : (s.value .templateDir).truthy = false) {ending : String}
    (hending : s.value .lineEnding = .str ending) {n : Node} {text : String}
    (hn : d.declaration.result = .ok n) (hprint : Script.print s.style n = .ok (.str text)) :
    ∃ r : Report, ((Generator.ofSettings s).report files d).1 = .ok (.ok r) ∧
      r.metadata = (Generator.ofSettings s).metadata d := by
  have hformat (code : String) :
      (Generator.ofSettings s).format code = .ok (Formatting.format ending code) := by
    rw [Generator.format, Generator.ofSettings, hending]
    rfl
  have hscript : ((Generator.ofSettings s).script d).result = .ok text := by
    have hprint : Script.print (Generator.ofSettings s).style n = .ok (.str text) := hprint
    rw [Generator.script_eq, hn, Result.ok_bind, hprint]
    rfl
  obtain ⟨name, hname⟩ := h.name
  rw [Generator.report_eq, Generator.generate_framed hfills (Settings.usesFrames hdirectory files),
    hscript, hname, Generator.headerFor_str, Result.ok_bind, Result.ok_bind, Generator.reported,
    hformat]
  exact ⟨_, rfl, rfl⟩

theorem Document.report_unprinted {n : Node} {e : Fault} (hn : d.declaration.result = .ok n)
    (hprint : Script.print s.style n = Result.fault e) (files : FileTree) :
    ((Generator.ofSettings s).report files d).1 = Result.fault e := by
  refine Generator.report_of_script (f := .fault e) ?_ files
  have hprint : Script.print (Generator.ofSettings s).style n = Result.fault e := hprint
  rw [Generator.script_eq, hn, Result.ok_bind, hprint]
  rfl

end

/-- What a report says of a component: how many props, fields, events and dependencies the
description has. -/
def Entries.facts (es : Entries Value) (s : Settings) : List (String × Value) := [
  ("component", (es.get? "name").getD (.str "")), ("language", .str languageName),
  ("file_extension", .str s.extension),
  ("prop_count", .int (es.entriesAt "propDefinitions").length),
  ("state_count", .int (es.entriesAt "stateDefinitions").length),
  ("method_count", .int (es.entriesAt "methods").length),
  ("dependency_count", .int (es.itemsAt "dependencies").length)]

theorem Document.ReadFrom.facts {es : Entries Value} {d : Document} (h : d.ReadFrom es)
    (s : Settings) : ((Generator.ofSettings s).metadata d).entries = es.facts s := by
  rw [Entries.facts, h.props.length_eq, h.state.length_eq, h.handlers.length_eq, ← h.dependencies,
    ← h.name]
  rfl

/-- A page with a title and an item in it. -/
def titledPage : Entries Value := [
  (.str "name", .str "Page"),
  (.str "propDefinitions", .map [(.str "title", .map [(.str "type", .str "string")])]),
  (.str "dependencies", .list [.str "Item"])]

theorem describeDocument_titledPage : titledPage.DescribeDocument := by
  have htype : (Value.map [(.str "type", .str "string")]).IsPlain written.limited :=
    .map ⟨["type"], rfl, by decide, fun _ _ => trivial⟩ (by simpa using .str _)
  have htitle : (Value.map [(.str "title", .map [(.str "type", .str "string")])]).IsPlain
      written.limited :=
    .map ⟨["title"], rfl, by decide, fun _ _ => trivial⟩ (by simpa using htype)
  have hitem : (Value.list [.str "Item"]).IsPlain written.limited := .list (by simpa using .str _)
  refine ⟨.map ⟨["name", "propDefinitions", "dependencies"], rfl, by decide, fun _ _ => trivial⟩
    (by simpa [titledPage] using ⟨.str _, htitle, hitem⟩), ?_, ?_, nofun, ?_, nofun⟩
  · intro v hv
    cases hv
    exact ⟨"Page", rfl⟩
  · intro v hv
    cases hv
    exact ⟨_, rfl, by simpa using ⟨_, rfl, fun _ _ => trivial⟩⟩
  · intro v hv
    cases hv
    exact ⟨_, rfl, by simpa using ⟨"Item", rfl⟩⟩

theorem isSound_titledPage {d : Document} (hd : Document.ofValue (.map titledPage) = .ok d) :
    d.IsSound := by
  have hitem : Naming.isReference "Item" = true := by decide
  cases hd
  exact ⟨by simpa using ⟨.string, rfl⟩, by simpa using hitem⟩

section

open Componentry.Program

def titledPageScript : String := Text.join "\n" [
  "export default \x7b", "  name: 'Page',", "  props: \x7b", "    title: String", "  \x7d,",
  "  components: \x7b", "    Item", "  \x7d", "\x7d"]

/-- Settings whose indentation is longer than a text can be; nothing warns of it. -/
def wideSettings : Settings := Settings.default.put .indentSize (.int (2 ^ 63))

end

end Componentry
