import Componentry.Command.Run
import Componentry.Proofs.Settings.Merged

/-!
# Settings that the arguments give

The arguments of a command give overrides for some settings, at most one for each. The destination
has a part in no other than the output file, so runs with different destinations have the same
settings apart from that one.
-/

namespace Componentry.Command

namespace GenerateArguments

variable (a : GenerateArguments)

theorem keys_given (k : Setting) (v : Option Value) :
    (given k v).keys.Sublist [.str k.name] := by
  cases v with
  | none => exact List.nil_sublist _
  | some v => exact List.Sublist.refl _

theorem overrides_isPlain : a.overrides.IsPlain written := by
  have hkeys : a.overrides.keys.Sublist (List.map .str (List.map Setting.name
      [.outputFormat, .templateDir, .indentSize, .useTabs, .quoteStyle, .semicolons, .addComments,
        .failOnWarnings, .outputFile])) := by
    simp only [overrides, Entries.keys, List.map_append]
    have h := fun k v => keys_given k v
    exact ((((((((h _ _).append (h _ _)).append (h _ _)).append (h _ _)).append (h _ _)).append
      (h _ _)).append (h _ _)).append (h _ _)).append (h _ _)
  exact .of_sublist hkeys (by decide) fun _ _ => trivial

theorem get?_given (j k : Setting) (v : Option Value) :
    (given k v).get? j.name = if j = k then v else none := by
  cases v with
  | none => exact (ite_self none).symm
  | some v =>
    rw [given, Option.map_some, Option.toList_some, Entries.get?_cons_str]
    by_cases h : j = k
    · rw [h, if_pos rfl, if_pos rfl]
    · rw [if_neg fun heq => h (Setting.name_injective heq.symm), if_neg h]
      rfl

theorem get?_overrides_outputFile :
    a.overrides.get? Setting.outputFile.name = filled a.outputFile := by
  simp [overrides, Entries.get?_append, get?_given]

theorem get?_overrides_failOnWarnings :
    a.overrides.get? Setting.failOnWarnings.name = provided a.strict (.bool true) := by
  simp [overrides, Entries.get?_append, get?_given]

/-- The output file that counts: the one of the arguments if it is not empty, else that of the
settings file, and none if neither gives one. -/
def effectiveOutputFile (es : Entries Value) : Value :=
  (filled a.outputFile).getD ((es.get? Setting.outputFile.name).getD .null)

/-- Whether warnings fail: they do if the arguments are strict, else if the settings file says
so. -/
def effectiveFailOnWarnings (es : Entries Value) : Value :=
  if a.strict then .bool true else (es.get? Setting.failOnWarnings.name).getD (.bool false)

section

variable {a}
variable {files : FileTree} {es : Entries Value} {s : Settings}
  (hes : Settings.fileEntries files (a.settingsFile.bind Settings.file?) = .ok es)
  (hs : settings files a.settingsFile a.overrides = .ok s)

include hes hs

theorem outputFile_of_settings : s.value .outputFile = a.effectiveOutputFile es := by
  rw [Settings.value_of_load a.overrides_isPlain hes hs (by decide), get?_overrides_outputFile,
    Option.getD_or]
  rfl

theorem failOnWarnings_of_settings : s.value .failOnWarnings = a.effectiveFailOnWarnings es := by
  rw [Settings.value_of_load a.overrides_isPlain hes hs (by decide),
    get?_overrides_failOnWarnings, Option.getD_or, effectiveFailOnWarnings]
  cases a.strict <;> rfl

end

theorem overrides_eq (destination : Option Destination) :
    { a with destination := destination }.overrides =
      { a with destination := none }.overrides ++
        given .outputFile (filled { a with destination := destination }.outputFile) := by
  simp [overrides, outputFile, filled, given]

/-- The settings with an output file, if one is given. -/
def withOutputFile (s : Settings) (v : Option Value) : Settings := v.elim s (s.put .outputFile)

theorem settings_eq (files : FileTree) (destination : Option Destination) :
    settings files a.settingsFile { a with destination := destination }.overrides =
      (settings files a.settingsFile { a with destination := none }.overrides).map fun s =>
        withOutputFile s (filled { a with destination := destination }.outputFile) := by
  rw [overrides_eq]
  unfold settings
  rw [Settings.load_map, Settings.load_map]
  cases Settings.fileEntries files (a.settingsFile.bind Settings.file?) with
  | error f => rfl
  | ok es =>
    rw [Result.ok_bind, Result.ok_bind, Entries.update_append]
    cases filled { a with destination := destination }.outputFile with
    | none =>
      exact (congrFun Except.map_id _).symm
    | some v => exact Settings.ofEntries_put _ (by decide) v

end GenerateArguments

end Componentry.Command
