import Componentry.Program.Template.Renderer
import Componentry.Proofs.Template.Rendered

/-!
# The renderer of the program and its past

What the renderer of the program finds for a name depends on nothing else that it has rendered
before, as long as the files and the templates stay. A given template stays in use once it was
found, but then no file was in front of it, and none is later.
-/

namespace Componentry.Program.Template

open Componentry.Template

variable {files : FileTree} {sources : Sources} {used : List (String × String)} {r : Rendering}

/-- A rendering of some files and templates. -/
def IsOf (files : FileTree) (sources : Sources) (r : Rendering) : Prop :=
  r.files = files ∧ r.sources = sources

/-- No file is in front of a given template that is in use. -/
def Settled (files : FileTree) (sources : Sources) (used : List (String × String)) : Prop :=
  ∀ r, IsOf files sources r → isCurrent used r = true → file? r = none

theorem settled_nil : Settled files sources [] := by
  intro r _ hcurrent
  rw [isCurrent, List.lookup_nil] at hcurrent
  cases hgiven : given? r <;> simp [hgiven] at hcurrent

theorem Settled.sourceFor_eq (h : Settled files sources used) (hr : IsOf files sources r) :
    sourceFor used r = found r := by
  unfold sourceFor
  cases hgiven : given? r with
  | none => rfl
  | some s =>
    by_cases hcurrent : isCurrent used r = true
    · dsimp only
      rw [if_pos hcurrent, found, h r hr hcurrent, hgiven]
    · exact if_neg hcurrent

theorem file?_eq_none_of_found {source : String} (h : found r = .ok (source, true)) :
    file? r = none := by
  cases hfile : file? r with
  | none => rfl
  | some bytes =>
    rw [found, hfile] at h
    have hread : ((Text.decode bytes).mapError Problem.undecodable).map (·, false) =
        .ok (source, true) := h
    cases hdecode : Text.decode bytes <;> rw [hdecode] at hread <;> cases hread

section

variable {name other : String} (given : List (String × String))

theorem lookup_putSource (h : other ≠ name) (source : String) :
    (Engine.putSource name source given).lookup other = given.lookup other := by
  have hne : (other == name) = false := beq_false_of_ne h
  induction given with
  | nil => rw [Engine.putSource, List.lookup_cons, hne]
  | cons s given ih =>
    obtain ⟨n, t⟩ := s
    rw [Engine.putSource]
    by_cases hn : n = name
    · rw [if_pos hn, List.lookup_cons, List.lookup_cons, hn, hne]
    · rw [if_neg hn, List.lookup_cons, List.lookup_cons, ih]

theorem lookup_filter_self : (given.filter (·.1 ≠ name)).lookup name = none := by
  rw [List.lookup_eq_none_iff]
  intro s hs
  have hne : s.1 ≠ name := of_decide_eq_true (List.mem_filter.mp hs).2
  exact bne_iff_ne.mpr hne.symm

theorem lookup_filter (h : other ≠ name) :
    (given.filter (·.1 ≠ name)).lookup other = given.lookup other := by
  have hne : (other == name) = false := beq_false_of_ne h
  induction given with
  | nil => rfl
  | cons s given ih =>
    obtain ⟨n, t⟩ := s
    by_cases hn : n = name
    · rw [List.filter_cons_of_neg (by simpa using hn), ih, List.lookup_cons, hn, hne]
    · rw [List.filter_cons_of_pos (by simpa using hn), List.lookup_cons, List.lookup_cons, ih]

end

theorem isCurrent_congr {used' : List (String × String)}
    (h : used.lookup r.name = used'.lookup r.name) : isCurrent used r = isCurrent used' r := by
  rw [isCurrent, isCurrent, h]

/-- A rendering leaves the templates in use settled: only its own may have come to them, and then it
was found without a file in front of it. -/
theorem Settled.useFor (h : Settled files sources used) (hr : IsOf files sources r) :
    Settled files sources (Template.useFor used r) := by
  unfold Template.useFor
  rw [h.sourceFor_eq hr]
  cases hfound : found r with
  | error p => exact h
  | ok s =>
    obtain ⟨source, isGiven⟩ := s
    dsimp only
    cases parts source.toList with
    | error p => exact h
    | ok ps =>
      dsimp only
      intro q hq hcurrent
      by_cases hname : q.name = r.name
      · cases isGiven with
        | true =>
          have hfile : file? q = file? r := by
            rw [file?, file?, hq.1, hq.2, hr.1, hr.2, hname]
          rw [hfile]
          exact file?_eq_none_of_found hfound
        | false =>
          have hlookup : (used.filter (·.1 ≠ r.name)).lookup q.name = none := by
            rw [hname]
            exact lookup_filter_self used
          rw [if_neg Bool.false_ne_true, isCurrent, hlookup] at hcurrent
          cases hgiven : given? q <;> simp [hgiven] at hcurrent
      · apply h q hq
        cases isGiven with
        | true => rwa [if_pos rfl, isCurrent_congr (lookup_putSource used hname source)] at hcurrent
        | false =>
          rwa [if_neg Bool.false_ne_true, isCurrent_congr (lookup_filter used hname)] at hcurrent

theorem settled_inUse {past : List Rendering} (h : ∀ p ∈ past, IsOf files sources p) :
    Settled files sources (inUse past) := by
  induction past with
  | nil => exact settled_nil
  | cons p past ih =>
    obtain ⟨hp, hpast⟩ := List.forall_mem_cons.mp h
    exact (ih hpast).useFor hp

theorem render_eq (past : List Rendering) (r : Rendering) : Renderer.render past r =
    (do textOf r (← sourceFor (inUse past) r).1).mapError Problem.message := rfl

/-- Renderings of the same files and templates make no difference to the renderer of the program. -/
theorem ignoresPast : IgnoresPast := by
  intro past r hpast
  have hfound : ∀ past : List Rendering, (∀ p ∈ past, IsOf r.files r.sources p) →
      sourceFor (inUse past) r = found r := fun past hpast =>
    (settled_inUse hpast).sourceFor_eq ⟨rfl, rfl⟩
  have hsource : sourceFor (inUse past) r = sourceFor (inUse []) r :=
    (hfound past hpast).trans (hfound [] nofun).symm
  rw [render_eq, render_eq, hsource]

end Componentry.Program.Template
