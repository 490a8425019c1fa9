import Componentry.Proofs.Files.Reached
import Componentry.Proofs.Settings.Reloaded
import Componentry.Settings.Check

/-!
# Which files of settings can be checked

A file of settings is either refused with an error that says so or gives settings that are checked
afterwards. Both rest on kinds of values that nothing has made sure of: that the file holds a text,
that the words among the settings can be looked up, that the directory of templates is a text, and
that `custom` is a collection, or entries where there are others to put behind them.
-/

namespace Componentry

open FileTree (HoldsText)

namespace Value

/-- A value of two parts, of which the first can be a key. -/
inductive IsPair : Value → Prop
  | text {s : String} {c d : Char} (hs : s.toList = [c, d]) : IsPair (.str s)
  | list {k v : Value} (hk : k.canBeKey = true) : IsPair (.list [k, v])
  | map {e e' : Value × Value} (hk : e.1.canBeKey = true) : IsPair (.map [e, e'])

/-- A value that a map can be updated with. -/
inductive GivesEntries : Value → Prop
  | text : GivesEntries (.str "")
  | list {vs : List Value} (hvs : ∀ v ∈ vs, v.IsPair) : GivesEntries (.list vs)
  | map (es : Entries Value) : GivesEntries (.map es)

/-- A value that has items. -/
inductive IsCollection : Value → Prop
  | text (s : String) : IsCollection (.str s)
  | list (vs : List Value) : IsCollection (.list vs)
  | map (es : Entries Value) : IsCollection (.map es)

variable {voc : Script.Vocabulary} {v : Value}

theorem exists_items_iff (hv : v.IsPlain voc) : (∃ vs, v.items = .ok vs) ↔ v.IsCollection := by
  cases hv with
  | str s => exact ⟨fun _ => .text s, fun _ => ⟨_, rfl⟩⟩
  | list => exact ⟨fun _ => .list _, fun _ => ⟨_, rfl⟩⟩
  | map => exact ⟨fun _ => .map _, fun _ => ⟨_, rfl⟩⟩
  | _ => exact ⟨nofun, nofun⟩

/-- A key and a value can be read from items just if there are two, the first of them fit for it. -/
theorem exists_pair_of_items {vs : List Value} (h : v.items = .ok vs) :
    (∃ e, v.pair = .ok e) ↔ ∃ k w, vs = [k, w] ∧ k.canBeKey = true := by
  rw [pair, h, Result.ok_bind]
  match vs with
  | [] | [_] | _ :: _ :: _ :: _ => exact ⟨nofun, fun ⟨_, _, hvs, _⟩ => nomatch hvs⟩
  | [k, w] =>
    dsimp only
    split_ifs with hk
    · exact ⟨fun _ => ⟨k, w, rfl, hk⟩, fun _ => ⟨_, rfl⟩⟩
    · refine ⟨nofun, ?_⟩
      rintro ⟨k', w', hvs, hk'⟩
      cases hvs
      exact absurd hk' hk

theorem exists_pair_iff (hv : v.IsPlain voc) : (∃ e, v.pair = .ok e) ↔ v.IsPair := by
  cases hv with
  | str s =>
    refine (exists_pair_of_items rfl).trans ⟨?_, ?_⟩
    · rintro ⟨k, w, hvs, -⟩
      match hs : s.toList with
      | [] | [_] | _ :: _ :: _ :: _ => simp [hs] at hvs
      | [c, d] => exact .text hs
    · rintro ⟨hs⟩
      exact ⟨_, _, by rw [hs]; rfl, rfl⟩
  | list =>
    refine (exists_pair_of_items rfl).trans ⟨?_, ?_⟩
    · rintro ⟨k, w, rfl, hk⟩
      exact .list hk
    · rintro ⟨⟩
      exact ⟨_, _, rfl, ‹_›⟩
  | @map es =>
    refine (exists_pair_of_items rfl).trans ⟨?_, ?_⟩
    · rintro ⟨k, w, hvs, hk⟩
      match es, hvs with
      | [e, e'], hvs =>
        cases hvs
        exact .map hk
    · rintro ⟨⟩
      exact ⟨_, _, rfl, ‹_›⟩
  | _ => exact ⟨nofun, nofun⟩

theorem exists_updates_iff (hv : v.IsPlain voc) :
    (∃ es, v.updates = .ok es) ↔ v.GivesEntries := by
  cases hv with
  | str s =>
    have hpair (c : Char) : ¬ ∃ e, (Value.str (String.singleton c)).pair = .ok e := by
      rw [exists_pair_of_items rfl, String.toList_singleton]
      exact fun ⟨_, _, hvs, _⟩ => nomatch hvs
    rw [show (Value.str s).updates = (s.toList.map fun c => str (String.singleton c)).mapM pair
      from rfl, Result.exists_mapM_iff]
    constructor
    · intro h
      cases hs : s.toList with
      | nil => exact String.toList_eq_nil_iff.mp hs ▸ .text
      | cons c cs =>
        exact absurd (h _ (List.mem_map_of_mem (hs ▸ List.mem_cons_self))) (hpair c)
    · rintro ⟨⟩ v hv
      cases hv
  | list hvs =>
    rw [show (Value.list _).updates = List.mapM pair _ from rfl, Result.exists_mapM_iff]
    constructor
    · exact fun h => .list fun w hw => (exists_pair_iff (hvs w hw)).mp (h w hw)
    · rintro ⟨⟩ w hw
      exact (exists_pair_iff (hvs w hw)).mpr (‹∀ w ∈ _, IsPair w› w hw)
  | map => exact ⟨fun _ => .map _, fun _ => ⟨_, rfl⟩⟩
  | _ => exact ⟨nofun, nofun⟩

/-- The items of a plain value are plain. -/
theorem items_isPlain (hv : v.IsPlain voc) {vs : List Value} (h : v.items = .ok vs) :
    ∀ w ∈ vs, w.IsPlain voc := by
  cases hv with
  | str s =>
    cases h
    exact List.forall_mem_map.mpr fun c _ => .str _
  | list hitems =>
    cases h
    exact hitems
  | map hentries =>
    cases h
    refine List.forall_mem_map.mpr fun e he => ?_
    obtain ⟨k, hk, -⟩ := hentries.key he
    exact hk ▸ .str k
  | _ => cases h

theorem key_isPlain_of_pair (hv : v.IsPlain voc) {e : Value × Value} (h : v.pair = .ok e) :
    e.1.IsPlain voc := by
  obtain ⟨vs, hvs, h⟩ := Result.bind_eq_ok.mp h
  have hitems := items_isPlain hv hvs
  split at h
  · split_ifs at h
    · cases h
      exact hitems _ List.mem_cons_self
    · cases h
  · cases h

/-- A map is updated with plain keys by a plain value. -/
theorem keys_isPlain_of_updates (hv : v.IsPlain voc) {pairs : Entries Value}
    (h : v.updates = .ok pairs) : ∀ k ∈ pairs.keys, k.IsPlain voc := by
  unfold updates at h
  split at h
  · cases h
    exact items_isPlain hv rfl
  · obtain ⟨vs, hvs, h⟩ := Result.bind_eq_ok.mp h
    refine List.forall_mem_map.mpr fun e he => ?_
    obtain ⟨w, hw, hwe⟩ := Result.exists_of_mapM h e he
    exact key_isPlain_of_pair (items_isPlain hv hvs w hw) hwe

theorem fault_of_items {f : Failure} (h : v.items = .error f) : ∃ fault, f = .fault fault := by
  cases v <;> cases h
  all_goals exact ⟨_, rfl⟩

theorem fault_of_pair {f : Failure} (h : v.pair = .error f) : ∃ fault, f = .fault fault := by
  rcases Result.bind_eq_error.mp h with hitems | ⟨vs, -, h⟩
  · exact fault_of_items hitems
  · split at h
    · split_ifs at h
      · cases h
      · cases h
        exact ⟨_, rfl⟩
    · cases h
      exact ⟨_, rfl⟩

/-- A value without entries is met with a fault. -/
theorem fault_of_updates {f : Failure} (h : v.updates = .error f) : ∃ fault, f = .fault fault := by
  unfold updates at h
  split at h
  · cases h
  · rcases Result.bind_eq_error.mp h with hitems | ⟨vs, -, h⟩
    · exact fault_of_items hitems
    · obtain ⟨w, -, hw⟩ := Result.exists_of_mapM_error h
      exact fault_of_pair hw

end Value

namespace Settings

variable {files : FileTree}

theorem exists_isOneOf_iff {voc : Script.Vocabulary} {options : List String} {v : Value}
    (hv : v.IsPlain voc) :
    (∃ fine, isOneOf options v = .ok fine) ↔ v.canBeKey = true := by
  cases hv with
  | list | map => exact ⟨nofun, nofun⟩
  | _ => exact ⟨fun _ => rfl, fun _ => ⟨_, rfl⟩⟩

theorem exists_isTemplateDir_iff {v : Value} : (∃ fine, isTemplateDir files v = .ok fine) ↔
    (v.truthy = true → ∃ dir, v = .str dir ∧ ¬ files.Refuses (.ofString dir)) := by
  unfold isTemplateDir
  split_ifs with hv
  · rw [forall_prop_of_true hv]
    cases v with
    | str dir =>
      refine FileTree.exists_hasDirectory_iff.trans ⟨fun h => ⟨dir, rfl, h⟩, ?_⟩
      rintro ⟨_, hdir, h⟩
      exact Value.str.inj hdir ▸ h
    | _ => exact ⟨nofun, fun ⟨_, hdir, _⟩ => nomatch hdir⟩
  · exact ⟨fun _ h => absurd h hv, fun _ => ⟨true, rfl⟩⟩

/-- The settings that are looked up among words. -/
def wordSettings : List Setting := [.outputFormat, .quoteStyle, .lineEnding]

/-- The words and the directory among settings can be checked. -/
def IsFit (files : FileTree) (s : Settings) : Prop :=
  (∀ k ∈ wordSettings, (s.value k).canBeKey = true) ∧ ((s.value .templateDir).truthy = true →
    ∃ dir, s.value .templateDir = .str dir ∧ ¬ files.Refuses (.ofString dir))

theorem exists_warnUnless (fine : Bool) (warning : String) {about : Option String}
    (h : ∃ s, about = some s) : ∃ ws, warnUnless fine warning about = .ok ws := by
  obtain ⟨s, rfl⟩ := h
  cases fine <;> exact ⟨_, rfl⟩

theorem exists_remarks {keys : List Value} (h : ∀ k ∈ keys, k.IsPlain written.limited) :
    ∃ ws, (keys.mapM fun key => do
      return "Unknown configuration key: " ++ (← key.inserted) : Result (List String)) = .ok ws :=
  Result.exists_mapM_iff.mpr fun k hk => by
    obtain ⟨t, ht⟩ := (h k hk).exists_shown
    exact ⟨_, by rw [Value.inserted, ht]; rfl⟩

theorem exists_warnings_iff {s : Settings}
    (hs : ∀ k, k ≠ .custom → (s.value k).IsPlain written.limited)
    (hcustom : ∀ vs, (s.value .custom).items = .ok vs → ∀ v ∈ vs, v.IsPlain written.limited) :
    (∃ ws, s.warnings files = .ok ws) ↔
      s.IsFit files ∧ ∃ vs, (s.value .custom).items = .ok vs := by
  have hformats := hs .outputFormat (by decide)
  have hquotations := hs .quoteStyle (by decide)
  have hendings := hs .lineEnding (by decide)
  have hwords : (∀ k ∈ wordSettings, (s.value k).canBeKey = true) ↔
      (∃ fine, isOneOf ["sfc", "js"] (s.value .outputFormat) = .ok fine) ∧
      (∃ fine, isOneOf ["single", "double"] (s.value .quoteStyle) = .ok fine) ∧
      (∃ fine, isOneOf ["\n", "\r\n"] (s.value .lineEnding) = .ok fine) := by
    rw [exists_isOneOf_iff hformats, exists_isOneOf_iff hquotations, exists_isOneOf_iff hendings]
    simp [wordSettings]
  rw [IsFit, hwords, ← exists_isTemplateDir_iff]
  unfold warnings
  constructor
  · rintro ⟨ws, h⟩
    obtain ⟨format, hformat, h⟩ := Result.bind_eq_ok.mp h
    obtain ⟨_, -, h⟩ := Result.bind_eq_ok.mp h
    obtain ⟨quotes, hquotes, h⟩ := Result.bind_eq_ok.mp h
    obtain ⟨_, -, h⟩ := Result.bind_eq_ok.mp h
    obtain ⟨_, -, h⟩ := Result.bind_eq_ok.mp h
    obtain ⟨ending, hending, h⟩ := Result.bind_eq_ok.mp h
    obtain ⟨_, -, h⟩ := Result.bind_eq_ok.mp h
    obtain ⟨templates, htemplates, h⟩ := Result.bind_eq_ok.mp h
    obtain ⟨_, -, h⟩ := Result.bind_eq_ok.mp h
    obtain ⟨custom, hitems, -⟩ := Result.bind_eq_ok.mp h
    exact ⟨⟨⟨⟨_, hformat⟩, ⟨_, hquotes⟩, _, hending⟩, _, htemplates⟩, _, hitems⟩
  · rintro ⟨⟨⟨⟨format, hformat⟩, ⟨quotes, hquotes⟩, ending, hending⟩, templates, htemplates⟩, vs,
      hitems⟩
    obtain ⟨a, ha⟩ := exists_warnUnless format "Invalid output_format: " hformats.exists_shown
    obtain ⟨b, hb⟩ := exists_warnUnless quotes "Invalid quote_style: " hquotations.exists_shown
    obtain ⟨c, hc⟩ := exists_warnUnless (isPositive (s.value .indentSize)) "Invalid indent_size: "
      (hs .indentSize (by decide)).exists_shown
    obtain ⟨d, hd⟩ := exists_warnUnless ending "Invalid line_ending: " hendings.exists_display
    obtain ⟨e, he⟩ := exists_warnUnless templates "Template directory not found: "
      (hs .templateDir (by decide)).exists_shown
    obtain ⟨f, hf⟩ := exists_remarks (hcustom vs hitems)
    dsimp only
    rw [hformat, hquotes, hending, htemplates, hitems]
    simp only [Result.ok_bind, ha, hb, hc, hd, he]
    exact ⟨_, congrArg (· >>= _) hf⟩

/-- Nothing in the entries of a file upsets that settings are made of them and checked. -/
structure CanBeChecked (files : FileTree) (es : Entries Value) : Prop where
  words : ∀ k ∈ wordSettings, ∀ v, es.get? k.name = some v → v.canBeKey = true
  templates : ∀ v, es.get? Setting.templateDir.name = some v → v.truthy = true →
    ∃ dir, v = .str dir ∧ ¬ files.Refuses (.ofString dir)
  custom : ∀ v, es.get? Setting.custom.name = some v →
    if unknown es = [] then v.IsCollection else v.GivesEntries

/-- What a file of settings can hold that neither is refused with an error that says so nor gives
settings that can be checked. -/
inductive Upsets (files : FileTree) (content : ByteArray) : Prop
  | noText (htext : ∀ text, ¬ HoldsText content text)
  | longNumber {text : List Char} (htext : HoldsText content text)
    (hnumber : Json.parse text = .error .tooLong)
  | unfit {text : List Char} {es : Entries Value} (htext : HoldsText content text)
    (hparse : Json.parse text = .ok (.map es)) (hes : ¬ CanBeChecked files es)

/-- A directory of templates that cannot be looked for, since the path to it is too long. -/
theorem not_canBeChecked_deep (files : FileTree) :
    ¬ CanBeChecked files [(.str "template_dir", .str (Path.deep 2049))] := by
  rintro ⟨-, htemplates, -⟩
  have htrue : (Value.str (Path.deep 2049)).truthy = true := by
    rw [Value.truthy, Bool.not_eq_true', Bool.eq_false_iff, ne_eq, String.isEmpty_iff]
    exact Path.deep_ne_empty (by decide)
  obtain ⟨dir, hdir, hsought⟩ := htemplates _ rfl htrue
  cases hdir
  exact hsought (FileTree.refuses_deep (by decide))

theorem upsets_text_iff {content : ByteArray} {text : List Char} (htext : HoldsText content text) :
    Upsets files content ↔ Json.parse text = .error .tooLong ∨
      ∃ es, Json.parse text = .ok (.map es) ∧ ¬ CanBeChecked files es := by
  constructor
  · rintro (hno | ⟨htext', hnumber⟩ | ⟨htext', hparse, hes⟩)
    · exact absurd htext (hno text)
    · exact .inl (htext.unique htext' ▸ hnumber)
    · exact .inr ⟨_, htext.unique htext' ▸ hparse, hes⟩
  · rintro (hnumber | ⟨es, hparse, hes⟩)
    · exact .longNumber htext hnumber
    · exact .unfit htext hparse hes

section

variable {voc : Script.Vocabulary} {es : Entries Value}

theorem fault_of_ofEntries {f : Failure} (h : ofEntries es = .error f) :
    ∃ fault, f = .fault fault := by
  unfold ofEntries at h
  split_ifs at h
  · cases h
  · rcases Result.bind_eq_error.mp h with hcustom | ⟨custom, -, h⟩
    · rcases Result.bind_eq_error.mp hcustom with hupdates | ⟨pairs, -, hpairs⟩
      · exact Value.fault_of_updates hupdates
      · cases hpairs
    · cases h

theorem unknown_base_update (hes : es.IsPlain voc) : unknown (base.update es) = unknown es := by
  rw [unknown_update]
  exact Entries.ofPairs_of_isPlain (hes.filter _)

theorem value_known_base (hes : es.IsPlain voc) (k : Setting) :
    (known (base.update es)).value k = (es.get? k.name).getD k.default := by
  change ((base.update es).get? k.name).getD k.default = _
  rw [Entries.get?_update hes, Option.getD_or, getD_base]

theorem forall_getD_iff {α : Type} {P : α → Prop} {d : α} (hd : P d) (o : Option α) :
    P (o.getD d) ↔ ∀ v, o = some v → P v := by
  cases o with
  | none => exact ⟨nofun, fun _ => hd⟩
  | some v => exact ⟨fun h w hw => Option.some.inj hw ▸ h, fun h => h v rfl⟩

/-- What is needed of a setting is needed of what the file gives for it, if the default has it. -/
theorem known_base_iff (hes : es.IsPlain voc) {P : Value → Prop} {k : Setting}
    (hdefault : P k.default) :
    P ((known (base.update es)).value k) ↔ ∀ v, es.get? k.name = some v → P v := by
  rw [value_known_base hes]
  exact forall_getD_iff hdefault _

theorem isPlain_known_base (hes : (Value.map es).IsPlain written.limited) (k : Setting) :
    ((known (base.update es)).value k).IsPlain written.limited := by
  have htwo : written.limited.number (.int 2) := ⟨.inl ⟨2, rfl⟩, _, rfl⟩
  exact (known_base_iff hes.keys (isPlain_default htwo k)).mpr fun _ hv => hes.member hv

theorem canBeKey_default {k : Setting} (hk : k ∈ wordSettings) : k.default.canBeKey = true := by
  revert k
  decide

theorem isFit_known_iff (hes : es.IsPlain voc) : (known (base.update es)).IsFit files ↔
    (∀ k ∈ wordSettings, ∀ v, es.get? k.name = some v → v.canBeKey = true) ∧
    ∀ v, es.get? Setting.templateDir.name = some v → v.truthy = true →
      ∃ dir, v = .str dir ∧ ¬ files.Refuses (.ofString dir) :=
  and_congr
    (forall₂_congr fun _ hk => known_base_iff hes (P := (·.canBeKey = true)) (canBeKey_default hk))
    (known_base_iff hes (k := .templateDir)
      (P := fun v => v.truthy = true → ∃ dir, v = .str dir ∧ ¬ files.Refuses (.ofString dir)) nofun)

theorem isFit_put_custom (s : Settings) (v : Value) :
    (s.put .custom v).IsFit files ↔ s.IsFit files :=
  and_congr (forall₂_congr fun k hk => by
    rw [value_put_of_ne s (show k ≠ .custom by rintro rfl; revert hk; decide) v]) Iff.rfl

/-- The keys of `custom` are plain where unknown entries are put behind those that are given. -/
theorem items_isPlain_custom (hes : (Value.map es).IsPlain written.limited) {v : Value}
    (hv : v.IsPlain written.limited) {pairs : Entries Value} (hpairs : v.updates = .ok pairs) :
    ∀ vs, (Value.map ((Entries.ofPairs pairs).update (unknown es))).items = .ok vs →
      ∀ k ∈ vs, k.IsPlain written.limited := by
  intro vs hvs k hk
  cases hvs
  rcases Entries.mem_keys_update hk with hgiven | hunknown
  · exact Value.keys_isPlain_of_updates hv hpairs k
      ((Entries.mem_keys_update hgiven).resolve_left List.not_mem_nil)
  · obtain ⟨e, he, rfl⟩ := List.mem_map.mp hunknown
    obtain ⟨j, hj, -⟩ := hes.keys.key (List.mem_of_mem_filter he)
    exact hj ▸ .str j

/-- Settings are made of the entries of a file and can be checked just if nothing upsets this. -/
theorem exists_checked_iff (hes : (Value.map es).IsPlain written.limited) :
    (∃ s, ofEntries (base.update es) = .ok s ∧ ∃ ws, s.warnings files = .ok ws) ↔
      CanBeChecked files es := by
  have hplain := isPlain_known_base hes
  unfold ofEntries
  rw [unknown_base_update hes.keys]
  by_cases hunknown : unknown es = []
  · have hcustom : (∃ vs, ((known (base.update es)).value .custom).items = .ok vs) ↔ _ :=
      (Value.exists_items_iff (hplain .custom)).trans
        (known_base_iff hes.keys (k := .custom) (P := Value.IsCollection) (.map _))
    rw [hunknown, List.isEmpty_nil, if_pos rfl]
    simp only [Result.pure_eq, Except.ok.injEq, exists_eq_left']
    rw [exists_warnings_iff (fun k _ => hplain k)
      (fun vs hvs => Value.items_isPlain (hplain .custom) hvs), isFit_known_iff hes.keys, hcustom]
    constructor
    · rintro ⟨⟨hwords, htemplates⟩, hcustom⟩
      exact ⟨hwords, htemplates, fun v hv => (if_pos hunknown).mpr (hcustom v hv)⟩
    · rintro ⟨hwords, htemplates, hcustom⟩
      exact ⟨⟨hwords, htemplates⟩, fun v hv => (if_pos hunknown).mp (hcustom v hv)⟩
  · have hcustom : (∃ pairs, ((known (base.update es)).value .custom).updates = .ok pairs) ↔ _ :=
      (Value.exists_updates_iff (hplain .custom)).trans
        (known_base_iff hes.keys (k := .custom) (P := Value.GivesEntries) (.map _))
    have hothers (v : Value) : ∀ k, k ≠ .custom →
        (((known (base.update es)).put .custom v).value k).IsPlain written.limited := fun k hk => by
      rw [value_put_of_ne _ hk]
      exact hplain k
    rw [if_neg (by rwa [List.isEmpty_iff])]
    constructor
    · rintro ⟨s, hs, hws⟩
      obtain ⟨custom, hentries, hs⟩ := Result.bind_eq_ok.mp hs
      obtain ⟨pairs, hpairs, hentries⟩ := Result.bind_eq_ok.mp hentries
      cases hs
      obtain rfl := Except.ok.inj hentries
      have hkeys := items_isPlain_custom hes (hplain .custom) hpairs
      have hfit := ((exists_warnings_iff (hothers _) hkeys).mp hws).1
      rw [isFit_put_custom, isFit_known_iff hes.keys] at hfit
      exact ⟨hfit.1, hfit.2, fun v hv => (if_neg hunknown).mpr (hcustom.mp ⟨pairs, hpairs⟩ v hv)⟩
    · rintro ⟨hwords, htemplates, hgiven⟩
      obtain ⟨pairs, hpairs⟩ := hcustom.mpr fun v hv => (if_neg hunknown).mp (hgiven v hv)
      have hkeys := items_isPlain_custom hes (hplain .custom) hpairs
      refine ⟨_, by rw [customEntries, hpairs]; rfl,
        (exists_warnings_iff (hothers _) hkeys).mpr ⟨?_, _, rfl⟩⟩
      rw [isFit_put_custom, isFit_known_iff hes.keys]
      exact ⟨hwords, htemplates⟩

end

theorem readFile_of_reaches {p : Path} {content : ByteArray}
    (hcontent : files.Reaches p (.file content)) (hp : p.isJson = true) :
    readFile files p = (do
      let text ← files.readText (fun e => .settings (.unreadable p.text e)) p
      match ← Json.read (fun c => .settings (.invalid p.text c)) text with
      | .map es => return es
      | _ => throw (.settings (.notAnObject p.text))) := by
  rw [readFile, FileTree.has_of_reaches hcontent, hp]
  rfl

/-- A file of settings that holds a single byte, which is no text. -/
def illFormedFiles : FileTree := ⟨[(["s.json"], .file ⟨#[0xFF]⟩)]⟩

end Settings

end Componentry
