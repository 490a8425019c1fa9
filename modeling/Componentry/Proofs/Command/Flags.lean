import Componentry.Proofs.Command.Effective
import Componentry.Proofs.Files.Reached
import Componentry.Proofs.Json.Plain
import Componentry.Proofs.Settings.Layered

/-!
# What the options of a command line decide

Every option of a command line that is about a setting replaces what earlier ones said about it, and
none of them is about two settings. So behind the name of a command, the last option about a setting
decides it, and the settings that no option is about are those of the file.
-/

namespace Componentry.Command

namespace GenerateArguments

/-- The setting that an option is about, if it is about one. -/
def Key.setting? : Key → Option Setting
  | .output => some .outputFile
  | .format => some .outputFormat
  | .templateDir => some .templateDir
  | .indent => some .indentSize
  | .tabs => some .useTabs
  | .quote => some .quoteStyle
  | .semicolons => some .semicolons
  | .noComments => some .addComments
  | .strict => some .failOnWarnings
  | _ => none

/-- The value that an option gives for its setting. A text that is empty or missing is no value; a
width without a number is one, though. -/
def Key.given (key : Key) (text : Option String) : Option Value :=
  match key with
  | .tabs | .semicolons | .strict => some (.bool true)
  | .noComments => some (.bool false)
  | .indent => some (width (text.bind Text.readInteger))
  | _ => filled text

/-- The last option about a setting, with the text behind it. -/
def last (k : Setting) : List (Item Key) → Option (Key × Option String)
  | [] => none
  | .option key text :: its =>
    (last k its).or (if key.setting? = some k then some (key, text) else none)
  | _ :: its => last k its

/-- The value that the last option about a setting gives. -/
def decided (its : List (Item Key)) (k : Setting) : Option Value :=
  (last k its).bind fun o => o.1.given o.2

/-- The override that arguments give for a setting. -/
def override (a : GenerateArguments) : Setting → Option Value
  | .outputFile => filled a.outputFile
  | .outputFormat => filled a.format
  | .templateDir => filled a.templateDir
  | .indentSize => a.indent.map width
  | .useTabs => provided a.tabs (.bool true)
  | .quoteStyle => filled a.quote
  | .semicolons => provided a.semicolons (.bool true)
  | .addComments => provided a.noComments (.bool false)
  | .failOnWarnings => provided a.strict (.bool true)
  | .lineEnding | .custom => none

theorem get?_overrides (a : GenerateArguments) (k : Setting) :
    a.overrides.get? k.name = a.override k := by
  cases k <;> simp [overrides, override, Entries.get?_append, get?_given]

section

variable {a a' : GenerateArguments} {key : Key} {text : Option String}

theorem filled_getD (text : Option String) : filled (some (text.getD "")) = filled text := by
  cases text <;> rfl

theorem eq_of_chosen {choices : List String} {choice : Option String}
    (h : chosen choices text = .ok choice) : choice = text := by
  cases text with
  | none =>
    cases h
    rfl
  | some text =>
    rw [chosen] at h
    split_ifs at h
    cases h
    rfl

theorem eq_of_number {n : Option Int} (h : number text = .ok n) :
    n = text.bind Text.readInteger := by
  cases text with
  | none =>
    cases h
    rfl
  | some text =>
    rw [Option.bind_some]
    rw [number] at h
    cases hn : Text.readInteger text <;> rw [hn] at h <;> cases h
    rfl

theorem override_of_withSource {s : Source} (h : a.withSource s = .ok a') :
    a'.override = a.override := by
  unfold withSource at h
  split at h <;> cases h <;> rfl

/-- A destination is replaced, and a directory comes after no file. -/
theorem of_withDestination {d : Destination} (h : a.withDestination d = .ok a') :
    a' = { a with destination := some d } ∧ ∀ path, d = .directory path → a.outputFile = none := by
  unfold withDestination at h
  split at h
  next hnone =>
    cases h
    exact ⟨rfl, fun _ _ => by rw [outputFile, hnone]⟩
  next hfile =>
    cases h
    exact ⟨rfl, fun _ hpath => by cases hpath⟩
  next hdirectory =>
    cases h
    exact ⟨rfl, fun _ _ => by rw [outputFile, hdirectory]⟩
  next => cases h

/-- An option decides the setting that it is about and no other. -/
theorem override_of_take (h : a.take key text = .ok a') (k : Setting) :
    a'.override k = if key.setting? = some k then key.given text else a.override k := by
  cases key with
  | help => cases h
  | url | stdin => rw [override_of_withSource h]; rfl
  | output =>
    obtain ⟨rfl, -⟩ := of_withDestination h
    cases k <;> first | rfl | exact filled_getD text
  | outputDir =>
    obtain ⟨rfl, hnone⟩ := of_withDestination h
    cases k <;> first | rfl | exact congrArg filled (hnone _ rfl).symm
  | format | quote =>
    obtain ⟨choice, hchoice, h⟩ := Result.bind_eq_ok.mp h
    cases h
    rw [eq_of_chosen hchoice]
    cases k <;> rfl
  | indent =>
    obtain ⟨n, hn, h⟩ := Result.bind_eq_ok.mp h
    cases h
    rw [eq_of_number hn]
    cases k <;> rfl
  | templateDir =>
    cases h
    cases k <;> first | rfl | exact filled_getD text
  | settingsFile | tabs | semicolons | noComments | strict | verbose =>
    cases h
    cases k <;> rfl

theorem last_option (k : Setting) (key : Key) (text : Option String) (its : List (Item Key)) :
    last k (.option key text :: its) =
      (last k its).or (if key.setting? = some k then some (key, text) else none) := rfl

/-- Of all options about a setting the last one decides it. -/
theorem override_of_follow {its : List (Item Key)} {clean : Bool}
    (h : follow take (fun a path _ => a.withSource (.file path)) clean a its = .ok a')
    (k : Setting) :
    a'.override k = (last k its).elim (a.override k) fun o => o.1.given o.2 := by
  induction its generalizing a clean with
  | nil =>
    rw [follow] at h
    split_ifs at h
    cases h
    rfl
  | cons it its ih =>
    cases it with
    | option key text =>
      rw [follow] at h
      cases hstep : a.take key text with
      | error stop =>
        rw [hstep] at h
        cases h
      | ok next =>
        rw [hstep] at h
        rw [ih h, override_of_take hstep, last_option]
        cases last k its with
        | some o => rfl
        | none => split_ifs <;> rfl
    | operand path behind =>
      rw [follow] at h
      cases hstep : a.withSource (.file path) with
      | error stop =>
        rw [hstep] at h
        cases h
      | ok next =>
        rw [hstep] at h
        rw [ih h, override_of_withSource hstep]
        rfl
    | stray => exact ih h
    | malformed => cases h

/-- The words behind the name of the command, told apart. -/
def itemsOf (line : List String) : Option (List (Item Key)) :=
  (words? forms line).map (items forms .single none)

theorem exists_itemsOf {line : List String} (h : ofLine line = .ok a) :
    ∃ its, itemsOf line = some its ∧ ∀ k, a.override k = decided its k := by
  unfold ofLine interpret at h
  cases hwords : words? forms line with
  | none =>
    rw [hwords] at h
    cases h
  | some ws =>
    rw [hwords] at h
    refine ⟨_, congrArg (Option.map _) hwords, fun k => ?_⟩
    rw [override_of_follow h k, decided]
    cases last k (items forms .single none ws) with
    | none => cases k <;> rfl
    | some o => rfl

end

section

variable {voc : Script.Vocabulary}

/-- Settings with the values that are given in the place of others. -/
def overridden (given : Setting → Option Value) (s : Settings) : Settings :=
  ⟨fun k => (given k).getD (s.value k)⟩

/-- Overrides for settings other than `custom` become their values and have no effect besides. -/
theorem ofEntries_update (es : Entries Value) {others : Entries Value} (h : others.IsPlain voc)
    (hnames : ∀ key ∈ others.keys, ∃ k : Setting, k ≠ .custom ∧ key = .str k.name) :
    Settings.ofEntries (es.update others) =
      (Settings.ofEntries es).map (overridden fun k => others.get? k.name) := by
  induction others generalizing es with
  | nil => exact (congrFun Except.map_id _).symm
  | cons e others ih =>
    obtain ⟨hrest, j, hj, -, hnot⟩ := h.cons
    obtain ⟨key, v⟩ := e
    obtain ⟨⟨k, hk, hkey⟩, hothers⟩ := List.forall_mem_cons.mp hnames
    obtain rfl : key = .str k.name := hkey
    cases hj
    rw [Entries.update_cons, ih _ hrest hothers, Settings.ofEntries_put _ hk]
    cases Settings.ofEntries es with
    | error f => rfl
    | ok s =>
      refine congrArg Except.ok (congrArg Settings.mk (funext fun i => ?_))
      dsimp only
      rw [Entries.get?_cons_str]
      by_cases hi : i = k
      · rw [hi, if_pos rfl, Entries.get?_of_not_mem hnot, Settings.value_put_self]
        rfl
      · rw [if_neg fun heq => hi (Setting.name_injective heq.symm), Settings.value_put_of_ne _ hi]

theorem names_of_overrides (a : GenerateArguments) :
    ∀ key ∈ a.overrides.keys, ∃ k : Setting, k ≠ .custom ∧ key = .str k.name := by
  have h (k : Setting) (hk : k ≠ .custom) (v : Option Value) :
      ∀ key ∈ (given k v).keys, ∃ k : Setting, k ≠ .custom ∧ key = .str k.name := fun key hkey =>
    ⟨k, hk, List.mem_singleton.mp ((keys_given k v).subset hkey)⟩
  have happend {es fs : Entries Value}
      (hes : ∀ key ∈ es.keys, ∃ k : Setting, k ≠ .custom ∧ key = .str k.name)
      (hfs : ∀ key ∈ fs.keys, ∃ k : Setting, k ≠ .custom ∧ key = .str k.name) :
      ∀ key ∈ (es ++ fs).keys, ∃ k : Setting, k ≠ .custom ∧ key = .str k.name := by
    rw [Entries.keys, List.map_append]
    exact List.forall_mem_append.mpr ⟨hes, hfs⟩
  exact happend (happend (happend (happend (happend (happend (happend (happend
    (h _ (by decide) _) (h _ (by decide) _)) (h _ (by decide) _)) (h _ (by decide) _))
    (h _ (by decide) _)) (h _ (by decide) _)) (h _ (by decide) _)) (h _ (by decide) _))
    (h _ (by decide) _)

theorem settings_overridden (files : FileTree) (file : Option String) (a : GenerateArguments) :
    settings files file a.overrides = (settings files file []).map (overridden a.override) := by
  unfold settings
  rw [Settings.load_map, Settings.load_map]
  cases Settings.fileEntries files (file.bind Settings.file?) with
  | error f => rfl
  | ok es =>
    rw [Result.ok_bind, Result.ok_bind, ofEntries_update _ a.overrides_isPlain a.names_of_overrides]
    exact congrArg (Except.map · _) (congrArg overridden (funext a.get?_overrides))

end

end GenerateArguments

section

variable {α : Type} {forms : List (OptionForm α)}

theorem map_text_of_words? {line : List String} {ws : List (Word α)}
    (h : words? forms line = some ws) : ws.map (·.text) = line := by
  induction line generalizing ws with
  | nil =>
    cases h
    rfl
  | cons s line ih =>
    rw [words?] at h
    split_ifs at h with hs
    · cases h
      rw [List.map_cons, List.map_map]
      exact congrArg (s :: ·) (List.map_id line)
    · obtain ⟨role, -, h⟩ := Option.bind_eq_some_iff.mp h
      obtain ⟨rest, hrest, h⟩ := Option.bind_eq_some_iff.mp h
      cases h
      exact congrArg (s :: ·) (ih hrest)

/-- An item is no operand. -/
def Item.IsAside (it : Item α) : Prop := ∀ text behind, it ≠ .operand text behind

theorem isAside_of_separate {f : OptionForm α} {text : List Char}
    {r : List (Item α) × Option (OptionForm α)} (h : separate forms f text = some r) :
    ∀ it ∈ r.1, it.IsAside := by
  have hoption (key : α) (value : Option String) : (Item.option key value).IsAside := nofun
  induction text generalizing f r with
  | nil =>
    rw [separate] at h
    split_ifs at h
    cases h
    exact List.forall_mem_singleton.mpr (hoption _ _)
  | cons c text ih =>
    rw [separate] at h
    by_cases hvalue : f.takesValue
    · rw [if_pos hvalue] at h
      cases h
      exact List.forall_mem_singleton.mpr (hoption _ _)
    · rw [if_neg hvalue] at h
      cases hg : spelled? forms (String.ofList ['-', c]) with
      | none =>
        rw [hg] at h
        cases h
      | some g =>
        rw [hg] at h
        dsimp only at h
        split_ifs at h
        · cases h
          exact List.forall_mem_singleton.mpr (hoption _ _)
        · obtain ⟨r', hr', rfl⟩ := Option.map_eq_some_iff.mp h
          exact List.forall_mem_cons.mpr ⟨hoption _ _, ih hr'⟩

theorem isAside_of_optionsIn {role : Role α} {r : List (Item α) × Option (OptionForm α)}
    (h : optionsIn forms role = some r) : ∀ it ∈ r.1, it.IsAside := by
  cases role with
  | joined f text => exact isAside_of_separate h
  | valued f value =>
    rw [optionsIn] at h
    split_ifs at h
    cases h
    exact List.forall_mem_singleton.mpr nofun
  | plain f =>
    cases h
    exact List.forall_mem_nil _
  | operand | separator | unknown =>
    cases h
    exact List.forall_mem_singleton.mpr nofun

/-- What an option puts down is no operand, so an operand among the items comes of the words
behind it. -/
theorem operand_mem_of_optionsIn (role : Role α) {operands : Operands} {ws : List (Word α)}
    {text : String} {behind : List String}
    (h : .operand text behind ∈ (match optionsIn forms role with
      | none => [.malformed]
      | some (before, none) => before ++ items forms operands none ws
      | some (before, some f) =>
        if f.takesValue then items forms operands (some (before, f.key)) ws
        else before ++ .option f.key none :: items forms operands none ws : List (Item α))) :
    ∃ pending : Pending α, (∀ p, pending = some p → ∀ it ∈ p.1, it.IsAside) ∧
      .operand text behind ∈ items forms operands pending ws := by
  cases hread : optionsIn forms role with
  | none =>
    rw [hread] at h
    cases List.mem_singleton.mp h
  | some r =>
    have haside := isAside_of_optionsIn hread
    obtain ⟨before, f⟩ := r
    rw [hread] at h
    cases f with
    | none =>
      rcases List.mem_append.mp h with h | h
      · exact absurd rfl (haside _ h text behind)
      · exact ⟨none, nofun, h⟩
    | some f =>
      dsimp only at h
      split_ifs at h
      · exact ⟨some (before, f.key), fun p hp => Option.some.inj hp ▸ haside, h⟩
      · rcases List.mem_append.mp h with h | h
        · exact absurd rfl (haside _ h text behind)
        · rcases List.mem_cons.mp h with h | h
          · cases h
          · exact ⟨none, nofun, h⟩

/-- The operand of a nested line is its first word, or it comes of the words behind that one. -/
theorem operand_mem_cons {w : Word α} {ws : List (Word α)} {pending : Pending α} {text : String}
    {behind : List String} (h : .operand text behind ∈ items forms .nested pending (w :: ws))
    (hpending : ∀ p, pending = some p → ∀ it ∈ p.1, it.IsAside) :
    (text = w.text ∧ behind = ws.map (·.text)) ∨
      ∃ pending : Pending α, (∀ p, pending = some p → ∀ it ∈ p.1, it.IsAside) ∧
        .operand text behind ∈ items forms .nested pending ws := by
  obtain ⟨s, role⟩ := w
  cases pending with
  | some p =>
    obtain ⟨before, key⟩ := p
    rw [items] at h
    cases role with
    | operand =>
      rcases List.mem_append.mp h with h | h
      · exact absurd rfl (hpending _ rfl _ h text behind)
      · rcases List.mem_cons.mp h with h | h
        · cases h
        · exact .inr ⟨none, nofun, h⟩
    | separator | unknown | plain | valued | joined => cases List.mem_singleton.mp h
  | none =>
    cases role with
    | operand | separator =>
      cases List.mem_singleton.mp h
      exact .inl ⟨rfl, rfl⟩
    | unknown => exact .inr (operand_mem_of_optionsIn .unknown h)
    | plain f => exact .inr (operand_mem_of_optionsIn (.plain f) h)
    | valued f value => exact .inr (operand_mem_of_optionsIn (.valued f value) h)
    | joined f value => exact .inr (operand_mem_of_optionsIn (.joined f value) h)

/-- Where a command line is nested in another one, it holds the words behind its name. -/
theorem exists_front {ws : List (Word α)} {pending : Pending α} {text : String}
    {behind : List String} (h : .operand text behind ∈ items forms .nested pending ws)
    (hpending : ∀ p, pending = some p → ∀ it ∈ p.1, it.IsAside) :
    ∃ front, ws.map (·.text) = front ++ text :: behind := by
  induction ws generalizing pending with
  | nil =>
    cases pending with
    | none => cases h
    | some p => cases List.mem_singleton.mp h
  | cons w ws ih =>
    obtain ⟨rfl, rfl⟩ | ⟨pending', hpending', h'⟩ := operand_mem_cons h hpending
    · exact ⟨[], rfl⟩
    · obtain ⟨front, hfront⟩ := ih h' hpending'
      exact ⟨w.text :: front, congrArg (w.text :: ·) hfront⟩

end

namespace Invocation

variable {i i' : Invocation} {line : List String} {a : GenerateArguments}

theorem task_of_take {key : Key} {value : Option String} (h : i.take key value = .ok i') :
    i'.task = i.task := by
  cases key with
  | help => cases h
  | logLevel =>
    cases value with
    | none =>
      cases h
      rfl
    | some name =>
      rw [take] at h
      cases hlevel : levels.find? fun l => l.name = name <;> rw [hlevel] at h <;> cases h
      rfl

theorem of_command {name : String} (h : i.command name line = .ok i')
    (htask : i'.task = some (.generate a)) :
    name = "generate" ∧ GenerateArguments.ofLine line = .ok a := by
  unfold command at h
  split at h
  · cases ha : GenerateArguments.ofLine line with
    | error stop =>
      rw [ha] at h
      cases h
    | ok a' =>
      rw [ha] at h
      cases h
      cases htask
      exact ⟨rfl, rfl⟩
  · cases hfile : settingsFileOf line <;> rw [hfile] at h <;> cases h
    cases htask
  · cases h

/-- The name of a command is among items, and it makes a task with the words behind it. -/
def Names (its : List (Item Key)) (t : Task) : Prop :=
  ∃ name behind i₀ i₁, .operand name behind ∈ its ∧ command i₀ name behind = .ok i₁ ∧
    i₁.task = some t

theorem task_of_follow {its : List (Item Key)} {clean : Bool} {t : Task}
    (h : follow take command clean i its = .ok i') (htask : i'.task = some t) :
    i.task = some t ∨ Names its t := by
  induction its generalizing i clean with
  | nil =>
    rw [follow] at h
    split_ifs at h
    cases h
    exact .inl htask
  | cons it its ih =>
    have hlater {i clean} (h : follow take command clean i its = .ok i') :
        i.task = some t ∨ Names (it :: its) t :=
      (ih h).imp_right fun ⟨name, behind, i₀, i₁, hmem, hcommand⟩ =>
        ⟨name, behind, i₀, i₁, List.mem_cons_of_mem it hmem, hcommand⟩
    cases it with
    | option key value =>
      rw [follow] at h
      cases hstep : i.take key value with
      | error stop =>
        rw [hstep] at h
        cases h
      | ok next =>
        rw [hstep] at h
        exact (hlater h).imp_left ((task_of_take hstep).symm.trans ·)
    | operand name behind =>
      rw [follow] at h
      cases hstep : i.command name behind with
      | error stop =>
        rw [hstep] at h
        cases h
      | ok next =>
        rw [hstep] at h
        refine .inr ((hlater h).elim (fun hnext => ?_) id)
        exact ⟨name, behind, i, next, List.mem_cons_self, hstep, hnext⟩
    | stray => exact hlater h
    | malformed => cases h

theorem exists_behind (h : ofLine line = .ok i) (htask : i.task = some (.generate a)) :
    ∃ front behind, line = front ++ "generate" :: behind ∧
      GenerateArguments.ofLine behind = .ok a := by
  unfold ofLine interpret at h
  split at h
  · cases h
  next ws hws =>
    rcases task_of_follow h htask with hnone | ⟨name, behind, i₀, i₁, hmem, hcommand, hi₁⟩
    · cases hnone
    · obtain ⟨rfl, ha⟩ := of_command hcommand hi₁
      obtain ⟨front, hfront⟩ := exists_front hmem nofun
      exact ⟨front, behind, (map_text_of_words? hws).symm.trans hfront, ha⟩

end Invocation

/-- Settings are merged from the base, a file and overrides, each of which wins over those before
it, and what is not a setting is gathered under `custom`. What a manager was asked for before makes
no difference. On a command line each option decides its setting, and those that no option is about
are as the file has them. -/
theorem settings_layered :
    (∀ files p es overrides, Settings.readFile files p = .ok es → Entries.Distinct overrides →
      Settings.load files (some p) (.map overrides) =
        Settings.load files none (.map (es.update overrides)) ∧
      ∀ given, Settings.Gives es overrides given → given.IsPlain written →
        ∃ s, Settings.load files (some p) (.map overrides) = .ok s ∧
          Settings.Merges es overrides given s) ∧
    (∀ requests, Settings.Manager.fresh.answers requests =
      requests.map fun r => Settings.load r.files r.file r.overrides) ∧
    ∀ line i a, Invocation.ofLine line = .ok i → i.task = some (.generate a) →
      ∃ front behind its, line = front ++ "generate" :: behind ∧
        GenerateArguments.itemsOf behind = some its ∧
        ∀ files, settings files a.settingsFile a.overrides =
          (settings files a.settingsFile []).map
            (GenerateArguments.overridden (GenerateArguments.decided its)) := by
  refine ⟨fun files p es overrides hes hoverrides => ⟨Settings.load_file_overrides hes hoverrides,
    fun given hgives hgiven => Settings.exists_merges hes hoverrides hgives hgiven⟩,
    Settings.Manager.answers_fresh, fun line i a hline htask => ?_⟩
  obtain ⟨front, behind, hbehind, ha⟩ := Invocation.exists_behind hline htask
  obtain ⟨its, hits, hdecided⟩ := GenerateArguments.exists_itemsOf ha
  refine ⟨front, behind, its, hbehind, hits, fun files => ?_⟩
  rw [GenerateArguments.settings_overridden, funext hdecided]

def themedText : String :=
  "\x7b\"quote_style\": \"double\", \"theme\": 1, \"custom\": \x7b\"theme\": 2, \"a\": 3\x7d\x7d"

/-- A file with a setting, an entry that is none, and entries for `custom`. -/
def themedFiles : FileTree := ⟨[(["s.json"], .file themedText.toUTF8)]⟩

theorem settings_layered_themed :
    (∃ es s, Settings.readFile themedFiles (.ofString "s.json") = .ok es ∧
      Settings.load themedFiles (some (.ofString "s.json"))
        (.map [(.str "indent_size", .int 4), (.int 1, .str "b")]) = .ok s ∧
      Settings.Merges es [(.str "indent_size", .int 4), (.int 1, .str "b")]
        [(.str "theme", .int 2), (.str "a", .int 3)] s) ∧
    ∃ front behind its,
      ["generate", "--quote", "single", "--config", "s.json"] = front ++ "generate" :: behind ∧
      GenerateArguments.itemsOf behind = some its ∧
      ∀ files, settings files (some "s.json") [(.str "quote_style", .str "single")] =
        (settings files (some "s.json") []).map
          (GenerateArguments.overridden (GenerateArguments.decided its)) := by
  have hreaches : FileTree.Reaches themedFiles (.ofString "s.json") (.file themedText.toUTF8) :=
    ⟨rfl, ["s.json"], rfl, rfl⟩
  have htext : FileTree.HoldsText themedText.toUTF8 themedText.toList :=
    ⟨themedText, rfl, (FileTree.universalNewlines_eq (by decide)).symm⟩
  have hrun : themedText.toList.foldlM Json.step .initial = .ok ⟨69, [], .finished (.map
      [(.str "quote_style", .str "double"), (.str "theme", .int 1),
        (.str "custom", .map [(.str "theme", .int 2), (.str "a", .int 3)])])⟩ := by cbv
  have hread : Settings.readFile themedFiles (.ofString "s.json") = .ok
      [(.str "quote_style", .str "double"), (.str "theme", .int 1),
        (.str "custom", .map [(.str "theme", .int 2), (.str "a", .int 3)])] := by
    refine Settings.readFile_eq_ok.mpr ⟨FileTree.has_of_reaches hreaches, rfl, _,
      FileTree.readText_of_holdsText hreaches htext, ?_⟩
    rw [Json.read, Json.parse_of_run hrun]
    rfl
  obtain ⟨-, hmerges⟩ := settings_layered.1 _ _ _ [(.str "indent_size", .int 4), (.int 1, .str "b")]
    hread (List.pairwise_pair.mpr rfl)
  obtain ⟨s, hs, hmerges⟩ := hmerges _ rfl ⟨["theme", "a"], rfl, by decide, fun _ _ => trivial⟩
  exact ⟨⟨_, s, hread, hs, hmerges⟩, settings_layered.2.2 _ _
    { settingsFile := some "s.json", quote := some "single" } rfl rfl⟩

end Componentry.Command
