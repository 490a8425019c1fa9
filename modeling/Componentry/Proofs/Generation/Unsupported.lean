import Componentry.Program.Machine
import Componentry.Program.Template.Renderer
import Componentry.Proofs.Component.Flawed
import Componentry.Proofs.Generation.Produced

/-!
# Props of no known type

A prop of no known type is reported with its whole definition as JSON, and generation ends with that
report. The definition is written on one line where the report is made. So the report itself fails,
and generation with it, just if something in the definition has no written form, or the name of the
prop has no text.
-/

namespace Componentry

section

variable [Machine] [Template.Renderer]

theorem Generator.report_of_declaration {g : Generator} {d : Document} {f : Failure}
    (h : d.declaration.result = .error f) (files : FileTree) :
    (g.report files d).1 = f.reported :=
  report_of_script (by rw [script_eq, h]; rfl) files

end

namespace PropDefinition

/-- A prop fails in a way under a name: it has no descriptor, and generation fails so wherever it is
the first of its component that has none. -/
structure FailsWith [Machine] [Template.Renderer] (p : PropDefinition) (name : Value)
    (f : Failure) : Prop where
  descriptor : p.descriptor name = .error f
  report {d : Document} {before after : Entries PropDefinition} {es : Entries Value}
    (hprops : d.component.props = before ++ (name, p) :: after)
    (hbefore : descriptors before = .ok es) (g : Generator) (files : FileTree) :
    (g.report files d).1 = f.reported

/-- What keeps a definition from being reported under a name: the name has no text, or else what is
met first in the definition that cannot be written on a line. There a key has to be null, a truth
value, a number or a text, whole numbers have to be short, and what JSON does not have has to be
displayed. -/
def reportFault? (p : PropDefinition) (name : Value) : Option Fault :=
  match name.shown with
  | none => some .malformed
  | some _ => (Value.map p.entries).spots.findSome? (Spot.fault? .line)

variable {p : PropDefinition} {name : Value}

theorem unsupported_eq_error {e : Fault} (h : p.reportFault? name = some e) :
    p.unsupported name = Result.fault e := by
  unfold reportFault? at h
  rw [unsupported, Value.inserted]
  cases hname : name.shown with
  | none =>
    rw [hname] at h
    cases h
    rfl
  | some shown =>
    rw [hname] at h
    have hline : Json.writeLine (.map p.entries) = Result.fault e :=
      Json.writeLine_eq_error_iff.mpr h
    rw [hline]
    rfl

theorem unsupported_reported (h : p.reportFault? name = none) : ∃ shown s,
    name.shown = some shown ∧ Json.writeLine (.map p.entries) = .ok s ∧ p.unsupported name =
      .error (.generation (.unsupportedProp name (.map p.entries) shown s)) := by
  unfold reportFault? at h
  cases hname : name.shown with
  | none =>
    rw [hname] at h
    cases h
  | some shown =>
    rw [hname] at h
    obtain ⟨s, hs⟩ := Json.writeLine_eq_ok_iff.mpr (List.findSome?_eq_none_iff.mp h)
    refine ⟨shown, s, rfl, hs, ?_⟩
    rw [unsupported, Value.inserted, hname, hs]
    rfl

/-- A definition of no known type with a default. -/
def dated (default : Value) : PropDefinition := ⟨.str "date", some default, true⟩

theorem reportFault?_dated (v : Value) :
    (dated v).reportFault? (.str "at") = v.spots.findSome? (Spot.fault? .line) := by
  change (v.spots ++ [Spot.key (.str "isRequired"), Spot.value (.bool true)]).findSome?
    (Spot.fault? .line) = _
  rw [List.findSome?_append]
  exact Option.or_none

section

variable [Machine] [Template.Renderer]

theorem failsWith_of_descriptor {f : Failure} (h : p.descriptor name = .error f) :
    p.FailsWith name f where
  descriptor := h
  report hprops hbefore _ files := Generator.report_of_declaration
    (Document.declaration_of_descriptors (hprops ▸ descriptors_append hbefore h)) files

end

section

open Componentry.Program

end

end PropDefinition

end Componentry
