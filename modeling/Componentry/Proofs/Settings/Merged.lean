import Componentry.Proofs.Component.Described
import Componentry.Proofs.Json.Plain
import Componentry.Settings.Layers

/-!
# What settings are merged to

Each setting has the value of the last layer that gives one, and its default if none does. Entries
under other names are kept apart under `custom`, whatever is put under the names of settings.
-/

namespace Componentry

namespace Setting

theorem ofKey?_name (k : Setting) : ofKey? (.str k.name) = some k := by
  cases k <;> decide

theorem eq_name_of_ofKey? {key : Value} {k : Setting} (h : ofKey? key = some k) :
    key = .str k.name :=
  (isText_iff key k.name).mp (List.find?_some (p := fun s : Setting => key.isText s.name) h)

theorem ofKey?_of_same {k key : Value} (h : k.same key = true) : ofKey? k = ofKey? key :=
  congrArg (all.find? ·) (funext fun s => Entries.isText_of_same h s.name)

theorem name_injective {j k : Setting} (h : j.name = k.name) : j = k := by
  have hj := ofKey?_name j
  rw [h, ofKey?_name] at hj
  exact (Option.some.inj hj).symm

end Setting

namespace Settings

open Entries (get?_put get?_update)

theorem value_put_self (s : Settings) (k : Setting) (v : Value) : (s.put k v).value k = v :=
  if_pos rfl

theorem value_put_of_ne (s : Settings) {j k : Setting} (h : j ≠ k) (v : Value) :
    (s.put k v).value j = s.value j :=
  if_neg h

theorem known_put (es : Entries Value) (k : Setting) (v : Value) :
    known (es.put (.str k.name) v) = (known es).put k v := by
  refine congrArg Settings.mk (funext fun j => ?_)
  rw [get?_put]
  by_cases hj : j = k
  · rw [hj, if_pos rfl, if_pos rfl]
    rfl
  · rw [if_neg fun h => hj (Setting.name_injective h.symm), if_neg hj]
    rfl

theorem unknown_put (es : Entries Value) (k : Setting) (v : Value) :
    unknown (es.put (.str k.name) v) = unknown es := by
  have hk : ¬ (Setting.ofKey? (.str k.name)).isNone := by
    rw [Setting.ofKey?_name]
    exact Bool.false_ne_true
  exact (Entries.filter_put (fun key => (Setting.ofKey? key).isNone) es k.name v).trans (if_neg hk)

theorem put_put_comm (s : Settings) {j k : Setting} (h : j ≠ k) (v w : Value) :
    (s.put j v).put k w = (s.put k w).put j v := by
  refine congrArg Settings.mk (funext fun i => ?_)
  dsimp only [put]
  split_ifs with hk hj
  · exact absurd (hj.symm.trans hk) h
  all_goals rfl

/-- An entry for a setting other than `custom` becomes the value of the setting and has no effect
besides. -/
theorem ofEntries_put (es : Entries Value) {k : Setting} (hk : k ≠ .custom) (v : Value) :
    ofEntries (es.put (.str k.name) v) = (ofEntries es).map (·.put k v) := by
  unfold ofEntries
  rw [unknown_put, known_put]
  rw [value_put_of_ne _ hk.symm]
  split_ifs
  · rfl
  · cases customEntries ((known es).value .custom) with
    | error f => rfl
    | ok custom => exact congrArg Except.ok (put_put_comm _ hk _ _)

theorem value_of_ofEntries {es : Entries Value} {s : Settings} (h : ofEntries es = .ok s)
    {k : Setting} (hk : k ≠ .custom) : s.value k = (es.get? k.name).getD k.default := by
  unfold ofEntries at h
  split_ifs at h
  · cases h
    rfl
  · obtain ⟨custom, -, h⟩ := Result.bind_eq_ok.mp h
    cases h
    exact value_put_of_ne _ hk _

/-- The entries of a file of settings; there are none if no file is given. -/
def fileEntries (files : FileTree) : Option Path → Result (Entries Value)
  | none => .ok []
  | some p => readFile files p

theorem load_map (files : FileTree) (file : Option Path) (overrides : Entries Value) :
    load files file (.map overrides) = (fileEntries files file >>= fun es =>
      ofEntries ((base.update es).update overrides)) := by
  unfold load fileEntries
  cases overrides <;> cases file <;> rfl

theorem readFile_eq_ok {files : FileTree} {p : Path} {es : Entries Value} :
    readFile files p = .ok es ↔ files.has p = .ok true ∧ p.isJson = true ∧ ∃ text,
      files.readText (fun e => .settings (.unreadable p.text e)) p = .ok text ∧
        Json.read (fun c => .settings (.invalid p.text c)) text = .ok (.map es) := by
  unfold readFile
  cases files.has p with
  | error f => exact ⟨nofun, nofun⟩
  | ok there =>
    cases there with
    | false => exact ⟨nofun, nofun⟩
    | true =>
      cases p.isJson with
      | false => exact ⟨nofun, nofun⟩
      | true =>
        constructor
        · intro h
          obtain ⟨_, hthere, h⟩ := Result.bind_eq_ok.mp h
          cases hthere
          obtain ⟨text, htext, h⟩ := Result.bind_eq_ok.mp h
          obtain ⟨v, hv, h⟩ := Result.bind_eq_ok.mp h
          cases v <;> cases h
          exact ⟨rfl, rfl, text, htext, hv⟩
        · rintro ⟨-, -, text, htext, hv⟩
          exact Result.bind_eq_ok.mpr
            ⟨true, rfl, Result.bind_eq_ok.mpr ⟨text, htext, Result.bind_eq_ok.mpr ⟨_, hv, rfl⟩⟩⟩

theorem isPlain_of_readFile {files : FileTree} {p : Path} {es : Entries Value}
    (h : readFile files p = .ok es) : (Value.map es).IsPlain written := by
  obtain ⟨-, -, text, -, hread⟩ := readFile_eq_ok.mp h
  exact (Json.isPlain_of_read hread).of_limited

theorem isPlain_of_fileEntries {files : FileTree} {file : Option Path} {es : Entries Value}
    (h : fileEntries files file = .ok es) : (Value.map es).IsPlain written := by
  cases file with
  | none => exact Except.ok.inj h ▸ Json.mapIsPlain_nil.of_limited
  | some p => exact isPlain_of_readFile h

theorem getD_base (k : Setting) : (base.get? k.name).getD k.default = k.default := by
  cases k <;> rfl

/-- The overrides come before the file, and the file before the defaults. -/
theorem value_of_load {files : FileTree} {file : Option Path} {overrides es : Entries Value}
    {s : Settings} (hoverrides : overrides.IsPlain written)
    (hes : fileEntries files file = .ok es) (hs : load files file (.map overrides) = .ok s)
    {k : Setting} (hk : k ≠ .custom) :
    s.value k = ((overrides.get? k.name).or (es.get? k.name)).getD k.default := by
  rw [load_map, hes, Result.ok_bind] at hs
  rw [value_of_ofEntries hs hk, get?_update hoverrides,
    get?_update (isPlain_of_fileEntries hes).keys, ← Option.or_assoc, Option.getD_or, getD_base]

end Settings

end Componentry
