import Componentry.Proofs.Settings.Reloaded
import Componentry.Proofs.Value.Layered
import Componentry.Settings.Manager

/-!
# Settings from layers

A file and overrides give the same settings as their entries put together. Each setting but `custom`
has the value of the last layer that gives one; `custom` holds what the last layer with an entry for
it gives, and over that all entries of the two layers that name no setting. What a manager was asked
for before makes no difference.
-/

namespace Componentry.Settings

open Entries (get?_update_of_distinct)

variable {files : FileTree} {p : Path} {es fs overrides custom : Entries Value} {s : Settings}

theorem unknown_base_of_distinct (h : es.Distinct) : unknown (base.update es) = unknown es := by
  rw [unknown_update]
  exact Entries.ofPairs_of_distinct (h.filter _)

/-- A file and overrides give what their entries put together give as overrides. -/
theorem load_file_overrides (hes : readFile files p = .ok es) (hoverrides : overrides.Distinct) :
    load files (some p) (.map overrides) = load files none (.map (es.update overrides)) := by
  have hplain := (isPlain_of_readFile hes).keys
  have hfile : fileEntries files (some p) = .ok es := hes
  rw [load_map, load_map, hfile, Result.ok_bind,
    ← Entries.update_update base hplain.distinct hoverrides (hplain.fits overrides)]
  rfl

/-- What is kept under `custom` when overrides come over the entries of a file: all of both that
name no setting, those of the overrides first, and what was given for `custom` under other keys. -/
structure Gathers (es overrides given custom : Entries Value) : Prop where
  distinct : custom.Distinct
  mem_iff : ∀ e, e ∈ custom ↔
    (Setting.ofKey? e.1 = none ∧
      (e ∈ overrides ∨ e ∈ es ∧ ∀ g ∈ overrides, e.1.same g.1 = false)) ∨
    e ∈ given ∧ ∀ g, g ∈ es ∨ g ∈ overrides → Setting.ofKey? g.1 = none → e.1.same g.1 = false

section

variable {voc voc' : Script.Vocabulary} {given : Entries Value}

theorem mem_unknown {e : Value × Value} :
    e ∈ unknown es ↔ e ∈ es ∧ Setting.ofKey? e.1 = none := by
  rw [unknown, List.mem_filter, Option.isNone_iff_eq_none]

/-- A key counts as the same as one of two layers put together if it does as one of either. -/
theorem apart_update_iff (hes : es.IsPlain voc) (hoverrides : overrides.Distinct) (k : Value) :
    (∀ g ∈ unknown (es.update overrides), k.same g.1 = false) ↔
      ∀ g, g ∈ es ∨ g ∈ overrides → Setting.ofKey? g.1 = none → k.same g.1 = false := by
  have hmem {g : Value × Value} :=
    Entries.mem_update_iff (e := g) hes.distinct hoverrides (hes.fits overrides)
  constructor
  · intro h g hg hnone
    by_cases hshadowed : ∃ f ∈ overrides, g.1.same f.1 = true
    · obtain ⟨f, hf, hsame⟩ := hshadowed
      rcases hg with hg | hg
      · have hkey : g.1 = f.1 := (hes.fits overrides).eq_of_same (List.mem_map_of_mem hg)
          (List.mem_map_of_mem hf) hsame
        rw [hkey] at hnone ⊢
        exact h f (mem_unknown.mpr ⟨hmem.mpr (.inl hf), hnone⟩)
      · exact h g (mem_unknown.mpr ⟨hmem.mpr (.inl hg), hnone⟩)
    · have happart : ∀ f ∈ overrides, g.1.same f.1 = false := fun f hf =>
        Bool.eq_false_iff.mpr fun hsame => hshadowed ⟨f, hf, hsame⟩
      exact h g (mem_unknown.mpr ⟨hmem.mpr (hg.symm.imp_right (⟨·, happart⟩)), hnone⟩)
  · intro h g hg
    obtain ⟨hg, hnone⟩ := mem_unknown.mp hg
    exact h g ((hmem.mp hg).symm.imp_left And.left) hnone

theorem gathers_update (hes : es.IsPlain voc) (hoverrides : overrides.Distinct)
    (hgiven : given.IsPlain voc') :
    Gathers es overrides given (given.update (unknown (es.update overrides))) := by
  have hdistinct : (unknown (es.update overrides)).Distinct :=
    (hes.distinct.update overrides).filter _
  refine ⟨hgiven.distinct.update _, fun e => ?_⟩
  rw [Entries.mem_update_iff hgiven.distinct hdistinct (hgiven.fits _), mem_unknown,
    Entries.mem_update_iff hes.distinct hoverrides (hes.fits overrides),
    apart_update_iff hes hoverrides, and_comm (b := Setting.ofKey? e.1 = none)]

end

/-- What settings are merged from a file and overrides. -/
structure Merges (es overrides given : Entries Value) (s : Settings) : Prop where
  listed : ∀ k, k ≠ .custom →
    s.value k = ((overrides.get? k.name).or (es.get? k.name)).getD k.default
  custom : ∃ custom, s.value .custom = .map custom ∧ Gathers es overrides given custom

/-- The entries that the last layer gives for `custom`; there are none if no layer gives any. -/
def Gives (es overrides given : Entries Value) : Prop :=
  ((overrides.get? Setting.custom.name).or (es.get? Setting.custom.name)).getD (.map []) =
    .map given

theorem exists_merges {voc : Script.Vocabulary} {given : Entries Value}
    (hes : readFile files p = .ok es) (hoverrides : overrides.Distinct)
    (hgives : Gives es overrides given) (hgiven : given.IsPlain voc) :
    ∃ s, load files (some p) (.map overrides) = .ok s ∧ Merges es overrides given s := by
  have hplain := (isPlain_of_readFile hes).keys
  have hdistinct := hplain.distinct.update overrides
  have hvalue (k : Setting) : (known (base.update (es.update overrides))).value k =
      ((overrides.get? k.name).or (es.get? k.name)).getD k.default := by
    change ((base.update (es.update overrides)).get? k.name).getD k.default = _
    rw [get?_update_of_distinct hdistinct, get?_update_of_distinct hoverrides, Option.getD_or,
      getD_base]
  have hload : load files none (.map (es.update overrides)) =
      ofEntries (base.update (es.update overrides)) := load_map files none _
  rw [load_file_overrides hes hoverrides, hload]
  refine ⟨_, ofEntries_eq ((hvalue .custom).trans hgives) hgiven, fun k hk => ?_, _,
    value_put_self _ _ _, ?_⟩
  · rw [value_put_of_ne _ hk, ← hvalue k]
  · rw [unknown_base_of_distinct hdistinct]
    exact gathers_update hplain hoverrides hgiven

namespace Manager

/-- A request is answered with the settings of its layers, and it leaves the manager as it was. -/
theorem get_fresh (r : Request) :
    fresh.get r = (load r.files r.file r.overrides, fresh) := by
  refine congrArg (·, fresh) ?_
  have hlayer (es : Entries Value) :
      ((if r.overrides.truthy then
            do return (Settings.base.update es).update (← r.overrides.updates)
          else return Settings.base.update es) >>= ofEntries : Result Settings) =
        if r.overrides.truthy then
          do ofEntries ((Settings.base.update es).update (← r.overrides.updates))
        else ofEntries (Settings.base.update es) := by
    split_ifs
    · cases r.overrides.updates <;> rfl
    · rfl
  unfold merged load
  cases r.file with
  | none => exact hlayer []
  | some p =>
    dsimp only
    cases readFile r.files p with
    | error f => rfl
    | ok es => exact hlayer es

/-- Requests that come one after the other are answered as if each were the only one. -/
theorem answers_fresh (rs : List Request) :
    fresh.answers rs = rs.map fun r => load r.files r.file r.overrides := by
  induction rs with
  | nil => rfl
  | cons r rs ih => rw [answers, get_fresh, ih, List.map_cons]

end Manager

end Componentry.Settings
