import Componentry.Proofs.Files.Written
import Componentry.Proofs.Json.Written
import Componentry.Proofs.Settings.Merged
import Componentry.Proofs.Value.Compared
import Componentry.Settings.Storage
import Mathlib.Data.List.Permutation

/-!
# Settings that are saved and loaded again

Saved settings are one object, in which the entries of `custom` stand next to the settings. They
can be told apart again by their names only. So settings that are loaded again are those that were
saved just if no entry of `custom` has the name of a setting.
-/

namespace Componentry

namespace Settings

open Script (Vocabulary)

section

variable {voc : Vocabulary} {es custom : Entries Value}

theorem put_of_value {s : Settings} {k : Setting} {v : Value} (h : s.value k = v) :
    s.put k v = s := by
  refine congrArg Settings.mk (funext fun j => ?_)
  split_ifs with hj
  · rw [hj, h]
  · rfl

theorem customEntries_map (h : custom.IsPlain voc) : customEntries (.map custom) = .ok custom :=
  congrArg Except.ok (Entries.ofPairs_of_isPlain h)

/-- Entries that are no settings end up behind those that were given for `custom`. -/
theorem ofEntries_eq (h : (known es).value .custom = .map custom) (hcustom : custom.IsPlain voc) :
    ofEntries es = .ok ((known es).put .custom (.map (custom.update (unknown es)))) := by
  unfold ofEntries
  split_ifs with hempty
  · rw [List.isEmpty_iff.mp hempty]
    exact congrArg Except.ok (put_of_value h).symm
  · rw [h, customEntries_map hcustom]
    rfl

/-- What is given for `custom` is kept if there is nothing else; otherwise it is what the other
entries are put behind. -/
theorem custom_of_ofEntries {s : Settings} (h : ofEntries es = .ok s) :
    s.value .custom = (known es).value .custom ∨
      ∃ pairs, ((known es).value .custom).updates = .ok pairs ∧
        s.value .custom = .map ((Entries.ofPairs pairs).update (unknown es)) := by
  unfold ofEntries at h
  split_ifs at h
  · cases h
    exact .inl rfl
  · obtain ⟨custom, hcustom, h⟩ := Result.bind_eq_ok.mp h
    obtain ⟨pairs, hpairs, hcustom⟩ := Result.bind_eq_ok.mp hcustom
    cases hcustom
    cases h
    exact .inr ⟨pairs, hpairs, value_put_self _ _ _⟩

theorem unknown_update (es others : Entries Value) :
    unknown (es.update others) = (unknown es).update (unknown others) :=
  Entries.filter_update_key (fun key => (Setting.ofKey? key).isNone) es fun _ _ _ hsame =>
    congrArg Option.isNone (Setting.ofKey?_of_same hsame)

/-- No entry of a map has the name of a setting. -/
def IsUnknown (es : Entries Value) : Prop := ∀ k : Setting, .str k.name ∉ es.keys

theorem unknown_eq_self (h : IsUnknown es) : unknown es = es := by
  refine List.filter_eq_self.mpr fun e he => ?_
  cases hk : Setting.ofKey? e.1 with
  | none => rfl
  | some k => exact absurd (Setting.eq_name_of_ofKey? hk ▸ List.mem_map_of_mem he) (h k)

theorem length_unknown_lt {k : Setting} (h : .str k.name ∈ es.keys) :
    (unknown es).length < es.length := by
  obtain ⟨e, he, hk⟩ := List.mem_map.mp h
  refine List.length_filter_lt_length_iff_exists.mpr ⟨e, he, ?_⟩
  rw [hk, Setting.ofKey?_name]
  exact Bool.false_ne_true

theorem isUnknown_of_mem_unknown {e : Value × Value} (h : e ∈ unknown es) (k : Setting) :
    e.1 ≠ .str k.name := by
  intro hk
  have hnone := (List.mem_filter.mp h).2
  rw [hk, Setting.ofKey?_name] at hnone
  cases hnone

end

/-- The settings other than `custom` as entries. -/
def listedEntries (s : Settings) : Entries Value :=
  Setting.listed.map fun k => (.str k.name, s.value k)

section

variable {s : Settings} {custom : Entries Value}

theorem toEntries_eq (h : s.value .custom = .map custom) :
    s.toEntries = .ok (s.listedEntries.update custom) := by
  unfold toEntries
  rw [h]
  rfl

theorem unknown_listedEntries (s : Settings) : unknown s.listedEntries = [] := rfl

theorem get?_listedEntries (s : Settings) (k : Setting) :
    s.listedEntries.get? k.name = if k = .custom then none else some (s.value k) := by
  cases k <;> rfl

theorem listedEntries_isPlain {voc : Vocabulary} (s : Settings) (hnames : ∀ k, voc.name k) :
    s.listedEntries.IsPlain voc :=
  ⟨Setting.listed.map Setting.name, rfl, by decide, fun k _ => hnames k⟩

end

section

variable {files files' : FileTree} {s : Settings} {p : Path} {es : Entries Value}

theorem read_of_save (hes : s.toEntries = .ok es) (hsave : save files s p = (files', .ok ())) :
    ∀ refuse, files'.read refuse p = .ok (Json.write .document (.map es)).text.toUTF8 := by
  have hdraft : s.draft = .ok (Json.write .document (.map es)) := by
    rw [draft, hes]
    rfl
  unfold save at hsave
  dsimp only at hsave
  cases hempty : files.write (fun e => .settings (.unwritable p.text e)) p .empty with
  | error f =>
    rw [hempty] at hsave
    cases hsave
  | ok emptied =>
    obtain ⟨filled, hfilled⟩ := FileTree.exists_write hempty
      (Json.write .document (.map es)).text.toUTF8
    rw [hempty, hdraft] at hsave
    dsimp only at hsave
    rw [hfilled] at hsave
    obtain rfl : filled = files' := (Prod.mk.inj hsave).1
    obtain ⟨_, hwritten⟩ := FileTree.written_of_write (.refl files) hfilled
    exact hwritten.readable

/-- What has been saved can be read again. -/
theorem readFile_of_save (hes : s.toEntries = .ok es) (hsave : save files s p = (files', .ok ()))
    (hp : p.isJson = true)
    (hjson : Json.parse (Json.write .document (.map es)).text.toList = .ok (.map es)) :
    readFile files' p = .ok es := by
  have hread := read_of_save hes hsave
  have hreturn := Json.isUnreturned_writeValue .document 0 (.map es)
  refine readFile_eq_ok.mpr ⟨FileTree.has_of_read (hread fun _ => .fault .refused), hp,
    (Json.write .document (.map es)).text.toList, FileTree.readText_of_read (hread _) hreturn, ?_⟩
  rw [Json.read, hjson]

end

section

variable {voc : Vocabulary} {es fs overrides custom : Entries Value} {s : Settings}

theorem isPlain_default {voc : Vocabulary} (htwo : voc.number (.int 2)) (k : Setting) :
    k.default.IsPlain voc := by
  cases k with
  | outputFile | templateDir => exact .null
  | outputFormat | lineEnding | quoteStyle => exact .str _
  | indentSize => exact .int htwo
  | useTabs | semicolons | addComments | failOnWarnings => exact .bool _
  | custom => exact .map Entries.isPlain_nil nofun

theorem comparable_two : comparable.number (.int 2) := ⟨.inl ⟨2, rfl⟩, nofun⟩

theorem isPlain_base : (Value.map base).IsPlain comparable := by
  refine .map ⟨[Setting.outputFormat, .indentSize, .useTabs, .quoteStyle, .semicolons,
    .addComments].map Setting.name, rfl, by decide, fun _ _ => trivial⟩ fun e he => ?_
  obtain ⟨k, -, rfl⟩ := List.mem_map.mp he
  exact isPlain_default comparable_two k

theorem isPlain_update (h : (Value.map es).IsPlain voc) (hfs : (Value.map fs).IsPlain voc) :
    (Value.map (es.update fs)).IsPlain voc :=
  .map (h.keys.update hfs.keys) fun _ he =>
    (Entries.mem_update_of_isPlain hfs.keys he).elim h.entry hfs.entry

theorem isPlain_unknown (h : (Value.map es).IsPlain voc) : (Value.map (unknown es)).IsPlain voc :=
  .map (h.keys.filter _) fun _ he => h.entry (List.mem_of_mem_filter he)

theorem isPlain_known (h : (Value.map es).IsPlain comparable) (k : Setting) :
    ((known es).value k).IsPlain comparable := by
  change ((es.get? k.name).getD k.default).IsPlain comparable
  cases hv : es.get? k.name with
  | none => exact isPlain_default comparable_two k
  | some v => exact h.member hv

/-- The entries that are given for `custom` are those of a map, if they are given. -/
def CustomIsMap (es : Entries Value) : Prop :=
  ∀ v, es.get? Setting.custom.name = some v → ∃ custom, v = .map custom

theorem custom_known (h : CustomIsMap es) : ∃ custom, (known es).value .custom = .map custom := by
  change ∃ custom, (es.get? Setting.custom.name).getD (.map []) = .map custom
  cases hv : es.get? Setting.custom.name with
  | none => exact ⟨[], rfl⟩
  | some v => exact h v hv

theorem load_null (files : FileTree) (file : Option Path) :
    load files file .null = fileEntries files file >>= fun es => ofEntries (base.update es) := by
  cases file <;> rfl

/-- Overrides that are plain make settings that are plain. -/
theorem isPlain_of_load {files : FileTree} (hoverrides : (Value.map overrides).IsPlain comparable)
    (hcustom : CustomIsMap overrides) (h : load files none (.map overrides) = .ok s) :
    (∃ custom, s.value .custom = .map custom) ∧ ∀ k, (s.value k).IsPlain comparable := by
  have h : ofEntries (base.update overrides) = .ok s := (load_map files none overrides).symm.trans h
  have hplain := isPlain_update isPlain_base hoverrides
  have hmap : CustomIsMap (base.update overrides) := by
    intro v hv
    rw [Entries.get?_update hoverrides.keys] at hv
    exact hcustom v ((Option.or_none (o := overrides.get? Setting.custom.name)).symm.trans hv)
  obtain ⟨custom, hknown⟩ := custom_known hmap
  have hcustom : (Value.map custom).IsPlain comparable := hknown ▸ isPlain_known hplain .custom
  rw [ofEntries_eq hknown hcustom.keys] at h
  cases h
  refine ⟨⟨_, value_put_self _ _ _⟩, fun k => ?_⟩
  by_cases hk : k = .custom
  · rw [hk, value_put_self]
    exact isPlain_update hcustom (isPlain_unknown hplain)
  · rw [value_put_of_ne _ hk]
    exact isPlain_known hplain k

end

section

variable {s s' : Settings} {custom : Entries Value}

/-- The layers of saved settings that are loaded again. -/
def reloadedEntries (s : Settings) (custom : Entries Value) : Entries Value :=
  base.update (s.listedEntries.update custom)

variable (hcustom : (Value.map custom).IsPlain comparable)

include hcustom

theorem unknown_reloaded : unknown (s.reloadedEntries custom) = unknown custom := by
  rw [reloadedEntries, unknown_update, unknown_update, unknown_listedEntries]
  have hunknown : (unknown custom).IsPlain comparable := hcustom.keys.filter _
  exact (congrArg _ (Entries.ofPairs_of_isPlain hunknown)).trans
    (Entries.ofPairs_of_isPlain hunknown)

theorem value_reloaded (k : Setting) : (known (s.reloadedEntries custom)).value k =
    (custom.get? k.name).getD (if k = .custom then .map [] else s.value k) := by
  have hlisted : s.listedEntries.IsPlain comparable := listedEntries_isPlain s fun _ => trivial
  change ((s.reloadedEntries custom).get? k.name).getD k.default = _
  rw [reloadedEntries, Entries.get?_update (hlisted.update hcustom.keys),
    Entries.get?_update hcustom.keys, get?_listedEntries, Option.or_assoc, Option.getD_or]
  split_ifs with hk
  · rw [hk]
    rfl
  · rfl

/-- Entries that have no names of settings are told apart again. -/
theorem ofEntries_of_isUnknown (hs : s.value .custom = .map custom) (h : IsUnknown custom) :
    ofEntries (s.reloadedEntries custom) = .ok s := by
  have hknown (k : Setting) : (known (s.reloadedEntries custom)).value k =
      if k = .custom then .map [] else s.value k := by
    rw [value_reloaded hcustom, Entries.get?_of_not_mem (h k)]
    rfl
  have hempty : Entries.IsPlain comparable ([] : Entries Value) := Entries.isPlain_nil
  rw [ofEntries_eq (hknown .custom) hempty, unknown_reloaded hcustom, unknown_eq_self h]
  refine congrArg Except.ok (congrArg Settings.mk (funext fun k => ?_))
  split_ifs with hk
  · rw [hk, hs]
    exact congrArg Value.map (Entries.ofPairs_of_isPlain hcustom.keys)
  · exact (hknown k).trans (if_neg hk)

/-- An entry of `custom` under the name of `custom` takes the place of all of them, so the entries
that are loaded again would have to be a part of themselves. -/
theorem not_same_of_custom {v : Value} (hv : custom.get? Setting.custom.name = some v)
    (h : ofEntries (s.reloadedEntries custom) = .ok s') :
    (Value.map custom).same (s'.value .custom) ≠ true := by
  intro hsame
  have hmem := Entries.mem_of_get? hv
  have hplain := hcustom.entry hmem
  have hknown : (known (s.reloadedEntries custom)).value .custom = v := by
    rw [value_reloaded hcustom, hv]
    rfl
  rcases custom_of_ofEntries h with hkept | ⟨pairs, hpairs, hput⟩
  · rw [hkept, hknown] at hsame
    exact absurd (hcustom.depth_le_of_same hsame) (depth_lt_map hmem).not_ge
  · rw [hknown] at hpairs
    rw [hput, unknown_reloaded hcustom, Value.same] at hsame
    obtain ⟨f, hf, hkey, hvalue⟩ := sameEntries_iff.mp (Bool.and_eq_true_iff.mp hsame).2 _ hmem
    rcases Entries.mem_update_of_isPlain (hcustom.keys.filter _) hf with hf | hf
    · obtain hnil | ⟨g, hg, heq⟩ := Entries.mem_update hf
      · cases hnil
      · have hle := hplain.depth_le_of_same hvalue
        rw [heq] at hle
        exact absurd hle (depth_lt_of_updates hplain hpairs g hg).not_ge
    · exact isUnknown_of_mem_unknown hf .custom ((str_same_iff _ _).mp hkey)

/-- An entry of `custom` under the name of another setting becomes the value of that setting and is
lost to `custom`. -/
theorem not_same_of_name (hnone : custom.get? Setting.custom.name = none) {k : Setting}
    (hk : .str k.name ∈ custom.keys) (h : ofEntries (s.reloadedEntries custom) = .ok s') :
    (Value.map custom).same (s'.value .custom) ≠ true := by
  intro hsame
  have hknown : (known (s.reloadedEntries custom)).value .custom = .map [] := by
    rw [value_reloaded hcustom, hnone]
    rfl
  have hempty : Entries.IsPlain comparable ([] : Entries Value) := Entries.isPlain_nil
  have hunknown : (unknown custom).IsPlain comparable := hcustom.keys.filter _
  rw [ofEntries_eq hknown hempty, unknown_reloaded hcustom] at h
  cases h
  rw [value_put_self, Value.same] at hsame
  have hlength : custom.length = (Entries.ofPairs (unknown custom)).length :=
    beq_iff_eq.mp (Bool.and_eq_true_iff.mp hsame).1
  rw [Entries.ofPairs_of_isPlain hunknown] at hlength
  exact absurd hlength (length_unknown_lt hk).ne'

end

/-- Settings that overrides make, and that are saved and loaded again, are the same as before just
if no entry of `custom` has the name of a setting. -/
theorem reloaded_iff {files files' : FileTree} {p : Path} {overrides : Entries Value} {s : Settings}
    (hoverrides : (Value.map overrides).IsPlain comparable) (hcustom : CustomIsMap overrides)
    (hload : load files none (.map overrides) = .ok s) (hp : p.isJson = true)
    (hsave : save files s p = (files', .ok ()))
    (hjson : ∀ es, s.toEntries = .ok es →
      Json.parse (Json.write .document (.map es)).text.toList = .ok (.map es)) :
    ∃ custom, s.value .custom = .map custom ∧
      ((∃ s', load files' (some p) .null = .ok s' ∧
        ∀ k, (s.value k).same (s'.value k) = true) ↔ IsUnknown custom) := by
  obtain ⟨⟨custom, hs⟩, hplain⟩ := isPlain_of_load hoverrides hcustom hload
  have hcustom : (Value.map custom).IsPlain comparable := hs ▸ hplain .custom
  have hes := toEntries_eq hs
  have hread := readFile_of_save hes hsave hp (hjson _ hes)
  have hreload : load files' (some p) .null = ofEntries (s.reloadedEntries custom) := by
    rw [load_null, fileEntries, hread]
    rfl
  refine ⟨custom, hs, fun ⟨s', hs', hsame⟩ k hk => ?_, fun hunknown => ?_⟩
  · rw [hreload] at hs'
    have hsame := hsame .custom
    rw [hs] at hsame
    cases hv : Entries.get? custom Setting.custom.name with
    | none => exact not_same_of_name hcustom hv hk hs' hsame
    | some v => exact not_same_of_custom hcustom hv hs' hsame
  · exact ⟨s, hreload.trans (ofEntries_of_isUnknown hcustom hs hunknown),
      fun k => (hplain k).same_self⟩

/-- Overrides in which a width is given as a custom entry. -/
def shadowing : Entries Value := [(.str "custom", .map [(.str "indent_size", .int 8)])]

/-- The first entries that are saved; the custom entry has taken the place of the setting. -/
def shadowed : Entries Value := [
  (.str "output_file", .null), (.str "output_format", .str "sfc"), (.str "template_dir", .null),
  (.str "indent_size", .int 8), (.str "use_tabs", .bool false)]

def unshadowed : Entries Value := [
  (.str "line_ending", .str "\n"), (.str "quote_style", .str "single"),
  (.str "semicolons", .bool false), (.str "add_comments", .bool true),
  (.str "fail_on_warnings", .bool false)]

def shadowedText : String :=
  "\x7b\n  \"output_file\": null,\n  \"output_format\": \"sfc\",\n  \"template_dir\": null,\n" ++
  "  \"indent_size\": 8,\n  \"use_tabs\": false"

def unshadowedText : String :=
  ",\n  \"line_ending\": \"\\n\",\n  \"quote_style\": \"single\",\n  \"semicolons\": false,\n" ++
  "  \"add_comments\": true,\n  \"fail_on_warnings\": false\n\x7d"

theorem write_shadowed : (Json.write .document (.map (shadowed ++ unshadowed))).text =
    shadowedText ++ unshadowedText := by
  cbv

set_option maxRecDepth 4000 in
theorem run_shadowedText : shadowedText.toList.foldlM Json.step .initial =
    .ok ⟨114, [], .afterMember shadowed⟩ := by
  cbv

set_option maxRecDepth 4000 in
theorem run_unshadowedText (es : Entries Value) :
    unshadowedText.toList.foldlM Json.step ⟨114, [], .afterMember es⟩ =
      .ok ⟨242, [], .finished (.map (es.update unshadowed))⟩ := by
  cbv

theorem parse_shadowed : Json.parse
    (Json.write .document (.map (shadowed ++ unshadowed))).text.toList =
      .ok (.map (shadowed ++ unshadowed)) := by
  have hrun : (shadowedText ++ unshadowedText).toList.foldlM Json.step .initial =
      .ok ⟨242, [], .finished (.map (shadowed.update unshadowed))⟩ := by
    rw [String.toList_append, List.foldlM_append, run_shadowedText, Result.ok_bind,
      run_unshadowedText]
  rw [write_shadowed, Json.parse_of_run hrun]
  rfl

theorem reloaded_iff_shadowing : ∃ s files', load .empty none (.map shadowing) = .ok s ∧
    save .empty s (.ofString "s.json") = (files', .ok ()) ∧
      ¬ ∃ s', load files' (some (.ofString "s.json")) .null = .ok s' ∧
        ∀ k, (s.value k).same (s'.value k) = true := by
  have hwidth : (Value.map [(.str "indent_size", .int 8)]).IsPlain comparable :=
    .map ⟨["indent_size"], rfl, by decide, fun _ _ => trivial⟩
      (by simpa using .int ⟨.inl ⟨8, rfl⟩, nofun⟩)
  have hplain : (Value.map shadowing).IsPlain comparable :=
    .map ⟨["custom"], rfl, by decide, fun _ _ => trivial⟩ (by simpa [shadowing] using hwidth)
  have hcustom : CustomIsMap shadowing := fun v hv => ⟨_, (Option.some.inj hv).symm⟩
  have hsaved : ∃ s files', load .empty none (.map shadowing) = .ok s ∧
      save .empty s (.ofString "s.json") = (files', .ok ()) ∧
      s.toEntries = .ok (shadowed ++ unshadowed) ∧
      s.value .custom = .map [(.str "indent_size", .int 8)] := ⟨_, _, rfl, rfl, rfl, rfl⟩
  obtain ⟨s, files', hload, hsave, hes, hvalue⟩ := hsaved
  have hjson : ∀ es, s.toEntries = .ok es →
      Json.parse (Json.write .document (.map es)).text.toList = .ok (.map es) := fun es h =>
    Except.ok.inj (hes.symm.trans h) ▸ parse_shadowed
  obtain ⟨custom, hs, hiff⟩ := reloaded_iff hplain hcustom hload rfl hsave hjson
  obtain rfl := Value.map.inj (hvalue.symm.trans hs)
  exact ⟨s, files', hload, hsave, fun h => hiff.mp h .indentSize (List.mem_singleton.mpr rfl)⟩

end Settings

end Componentry
