import Componentry.Program.Terminal.Markup
import Componentry.Proofs.Command.Effective
import Componentry.Proofs.Files.Written
import Componentry.Proofs.Generation.History

/-!
# How generated code is delivered

Each step of a command either hands on to the next one or refuses, and a refusal keeps what had been
written by then. The code is written in the last step only. So a command that generates code has
failed and written nothing, or it has written the code, to one place; and which place that is makes
no difference to the code.
-/

namespace Componentry

namespace Generator

variable [Machine] [Template.Renderer]

theorem generate_put_outputFile (s : Settings) (v : Value) (files : FileTree) (d : Document) :
    ((ofSettings (s.put .outputFile v)).generate files d).1 =
      ((ofSettings s).generate files d).1 := by
  have hscript : (ofSettings (s.put .outputFile v)).script d = (ofSettings s).script d := rfl
  unfold generate
  dsimp only
  rw [hscript]
  cases ((ofSettings s).script d).result with
  | error f => rfl
  | ok script =>
    dsimp only
    rw [frame_fst, frame_fst]
    rfl

/-- The output file has no part in what is generated. -/
theorem report_put_outputFile (s : Settings) (v : Value) (files : FileTree) (d : Document) :
    ((ofSettings (s.put .outputFile v)).report files d).1 =
      ((ofSettings s).report files d).1 := by
  rw [report_eq, report_eq, generate_put_outputFile]
  rfl

end Generator

namespace Command

/-- What had been written by the first outcome is all that has been written by the second. -/
structure Outcome.Keeps (o o' : Outcome) : Prop where
  output : o'.output = o.output
  files : o'.files = o.files

/-- The outcome of a refusal: nothing has been written since. -/
structure Outcome.Refused (o o' : Outcome) : Prop extends Keeps o o' where
  exit : o'.exit = .failed

namespace Outcome

variable {o o' o'' : Outcome}

theorem files_initial (files : FileTree) : (initial files).files = files := rfl

theorem files_logged (o : Outcome) (records : List Log.Record) :
    (o.logged records).files = o.files := rfl

theorem Keeps.refused (h : Keeps o o') (h' : Refused o' o'') : Refused o o'' :=
  ⟨⟨h'.output.trans h.output, h'.files.trans h.files⟩, h'.exit⟩

variable [Console]

theorem keeps_of_noticed {notice : String} (h : o.noticed notice = .ok o') : Keeps o o' := by
  obtain ⟨shown, -, h⟩ := Result.bind_eq_ok.mp h
  exact Except.ok.inj h ▸ ⟨rfl, rfl⟩

theorem keeps_of_warned {warnings : List String} (h : o.warned warnings = .ok o') :
    Keeps o o' := by
  obtain ⟨shown, -, h⟩ := Result.bind_eq_ok.mp h
  exact Except.ok.inj h ▸ ⟨rfl, rfl⟩

theorem refused_of_refused {notice : String} (h : o.refused notice = .ok o') : Refused o o' := by
  obtain ⟨o₁, hnoticed, h⟩ := Result.bind_eq_ok.mp h
  obtain ⟨houtput, hfiles⟩ := keeps_of_noticed hnoticed
  exact Except.ok.inj h ▸ ⟨⟨houtput, hfiles⟩, rfl⟩

theorem warned_nil (o : Outcome) {blank : String} (hblank : Console.display "" = .ok blank) :
    o.warned [] = .ok { o with warnings := [] } := by
  rw [warned, show Text.join "\n" (List.map ("• " ++ Console.escaped ·) []) = "" from rfl, hblank]
  rfl

theorem after_ok {α : Type} (o : Outcome) {step : Result α} {a : α} (h : step = .ok a)
    (next : α → Result Outcome) : o.after step next = next a := by
  rw [h]
  rfl

/-- After a step the command goes on, or the step was refused. -/
theorem after_eq_ok {α : Type} {step : Result α} {next : α → Result Outcome}
    (h : o.after step next = .ok o') : (∃ a, step = .ok a ∧ next a = .ok o') ∨ Refused o o' := by
  unfold after at h
  split at h
  · exact .inl ⟨_, rfl, h⟩
  · split at h
    · exact .inr (refused_of_refused h)
    · cases h

end Outcome

section

variable {o o' : Outcome} {a : GenerateArguments} {s : Settings} {r : Report}

/-- Where code is written: to standard output, or to a file that is at the path and at no other
place. -/
inductive Emitted (before : FileTree) (code : String) (o : Outcome) : Option Path → Prop
  | standardOutput (houtput : o.output = .code code) (hfiles : o.files = before) :
    Emitted before code o none
  | file {p : Path} {place : Place} (houtput : o.output = .nothing)
    (hwritten : FileTree.Written before o.files p code.toUTF8 place) :
    Emitted before code o (some p)

theorem written_of_save {t t' : FileTree} {p : Path} {code : String} (h : save t p code = .ok t') :
    ∃ place, FileTree.Written t t' p code.toUTF8 place := by
  obtain ⟨made, hmade, hwrite⟩ := Result.bind_eq_ok.mp h
  exact FileTree.written_of_write (.of_makeDirectory hmade) hwrite

variable [Console]

/-- The last step of a command that has written code. -/
def finish (a : GenerateArguments) (s : Settings) (r : Report) (o : Outcome) : Result Outcome := do
  let metadata ← if a.verbose then table r.metadata else pure []
  return { o with exit := exitFor s r, metadata := metadata }

theorem deliver_eq (o : Outcome) (a : GenerateArguments) (s : Settings) (r : Report) :
    deliver o a s r = (o.warned r.warnings >>= fun o => o.after (target a s r.metadata) fun
      | none => finish a s r { o with output := .code r.code }
      | some p => o.after (save o.files p r.code) fun files =>
        Outcome.noticed { o with files := files } ("[green]✓[/green] Wrote " ++ p.text) >>=
          finish a s r) := rfl

theorem finish_of_no_warnings (o : Outcome) (s : Settings) (hwarnings : r.warnings = [])
    (hverbose : a.verbose = false) :
    finish a s r o = .ok { o with exit := .done, metadata := [] } := by
  have hexit : exitFor s r = .done := by
    rw [exitFor, hwarnings]
    rfl
  rw [finish, hverbose, hexit]
  rfl

theorem keeps_of_finish (h : finish a s r o = .ok o') :
    Outcome.Keeps o o' ∧ o'.exit = exitFor s r := by
  unfold finish at h
  split_ifs at h
  all_goals
    obtain ⟨metadata, -, h⟩ := Result.bind_eq_ok.mp h
    exact Except.ok.inj h ▸ ⟨⟨rfl, rfl⟩, rfl⟩

theorem deliver_eq_ok (houtput : o.output = .nothing) (h : deliver o a s r = .ok o') :
    Outcome.Refused o o' ∨ ∃ path, target a s r.metadata = .ok path ∧
      Emitted o.files r.code o' path ∧ o'.exit = exitFor s r := by
  rw [deliver_eq] at h
  obtain ⟨o₁, hwarned, h⟩ := Result.bind_eq_ok.mp h
  have hkeeps := Outcome.keeps_of_warned hwarned
  rcases Outcome.after_eq_ok h with ⟨path, hpath, h⟩ | h
  · cases path with
    | none =>
      obtain ⟨⟨hcode, hfiles⟩, hexit⟩ := keeps_of_finish h
      exact .inr ⟨none, hpath, .standardOutput hcode (hfiles.trans hkeeps.files), hexit⟩
    | some p =>
      rcases Outcome.after_eq_ok h with ⟨files, hsave, h⟩ | h
      · obtain ⟨o₂, hnoticed, h⟩ := Result.bind_eq_ok.mp h
        have hnoticed := Outcome.keeps_of_noticed hnoticed
        obtain ⟨hfinish, hexit⟩ := keeps_of_finish h
        obtain ⟨place, hwritten⟩ := written_of_save hsave
        have hfiles : o'.files = files := hfinish.files.trans hnoticed.files
        have hnothing : o'.output = .nothing :=
          ((hfinish.output.trans hnoticed.output).trans hkeeps.output).trans houtput
        rw [hkeeps.files, ← hfiles] at hwritten
        exact .inr ⟨some p, hpath, .file hnothing hwritten, hexit⟩
      · exact .inl (hkeeps.refused h)
  · exact .inl (hkeeps.refused h)

end

/-- Where code goes: to a file of the component's name in the directory of the arguments, if that is
not empty; else to the output file that counts; and else to standard output. -/
inductive Destined (a : GenerateArguments) (es : Entries Value) (s : Settings) (name : Value) :
    Option Path → Prop
  | directory {directory stem : String} (hdirectory : a.outputDirectory = some directory)
    (hfilled : directory ≠ "") (hname : name = .str stem) :
    Destined a es s name
      (some ((Path.ofString directory).child (Naming.fileStem stem ++ s.extension)))
  | file {path : String} (hdirectory : ∀ directory, a.outputDirectory = some directory →
      directory = "") (hfile : a.effectiveOutputFile es = .str path) (hfilled : path ≠ "") :
    Destined a es s name (some (.ofString path))
  | standardOutput (hdirectory : ∀ directory, a.outputDirectory = some directory →
      directory = "") (hfile : (a.effectiveOutputFile es).truthy = false) :
    Destined a es s name none

section

variable [Machine] [Template.Renderer]

/-- The document, the settings and the report of a command that generates code. -/
structure Generates (w : Surroundings) (a : GenerateArguments) (es : Entries Value) (s : Settings)
    (d : Document) (g : Generator) (r : Report) : Prop where
  document : ∃ loaded, (document w a).result = .ok loaded ∧
    Document.ofValue loaded.description = .ok d
  entries : Settings.fileEntries w.files (a.settingsFile.bind Settings.file?) = .ok es
  settings : settings w.files a.settingsFile a.overrides = .ok s
  report : (Generator.ofSettings s).report w.files d = (.ok (.ok r), g)

/-- A command has written generated code, and its exit code says whether warnings fail. -/
structure Delivers (w : Surroundings) (a : GenerateArguments) (code : String) (o : Outcome) :
    Prop where
  delivered : ∃ es s d g r path, Generates w a es s d g r ∧ r.code = code ∧
    Destined a es s d.component.name path ∧ Emitted w.files code o path ∧
    (o.exit.code = 0 ∨ o.exit.code = 2) ∧
    (o.exit.code = 2 ↔ g.diagnostics ≠ [] ∧ (a.effectiveFailOnWarnings es).truthy = true)

variable {w : Surroundings} {a : GenerateArguments} {es : Entries Value} {s : Settings}
  {d : Document} {g : Generator} {r : Report} {o : Outcome} {path : Option Path}

theorem report_eq_ok (h : (Generator.ofSettings s).report w.files d = (.ok (.ok r), g)) :
    r.warnings = g.diagnostics.map Diagnostic.text ∧
      r.metadata.component = d.component.name ∧ r.metadata.extension = s.extension := by
  have hsettings := Generator.settings_generate (.ofSettings s) w.files d
  unfold Generator.report at h
  generalize (Generator.ofSettings s).generate w.files d = generated at h hsettings
  obtain ⟨code, g'⟩ := generated
  obtain ⟨hreport, rfl⟩ := Prod.mk.inj h
  cases code with
  | error f => cases f <;> cases hreport
  | ok code =>
    obtain ⟨formatted, -, hreport⟩ := Result.bind_eq_ok.mp hreport
    cases hreport
    exact ⟨rfl, rfl, congrArg Settings.extension hsettings⟩

theorem destined_of_target (h : Generates w a es s d g r)
    (htarget : target a s r.metadata = .ok path) : Destined a es s d.component.name path := by
  obtain ⟨-, hcomponent, hextension⟩ := report_eq_ok h.report
  have hfile := GenerateArguments.outputFile_of_settings h.entries h.settings
  unfold target at htarget
  cases hdirectory : a.outputDirectory.filter (!·.isEmpty) with
  | some directory =>
    obtain ⟨hgiven, hfilled⟩ := Option.filter_eq_some_iff.mp hdirectory
    rw [hdirectory] at htarget
    obtain ⟨stem, hstem, htarget⟩ := Result.bind_eq_ok.mp htarget
    rw [hcomponent] at hstem
    cases htarget
    rw [hextension]
    refine .directory hgiven (fun hempty => ?_) (eq_str_of_text hstem)
    rw [hempty] at hfilled
    cases hfilled
  | none =>
    have hempty : ∀ directory, a.outputDirectory = some directory → directory = "" := by
      intro directory hgiven
      simpa [hgiven, Option.filter_eq_none_iff] using hdirectory
    rw [hdirectory] at htarget
    dsimp only at htarget
    rw [hfile] at htarget
    split_ifs at htarget with htruthy
    · obtain ⟨file, htext, htarget⟩ := Result.bind_eq_ok.mp htarget
      have hstr := eq_str_of_text htext
      cases htarget
      refine .file hempty hstr fun hfilled => ?_
      rw [hstr, hfilled] at htruthy
      cases htruthy
    · cases htarget
      exact .standardOutput hempty (Bool.eq_false_iff.mpr htruthy)

theorem code_of_exitFor (hreport : (Generator.ofSettings s).report w.files d = (.ok (.ok r), g))
    (hexit : o.exit = exitFor s r) : (o.exit.code = 0 ∨ o.exit.code = 2) ∧
      (o.exit.code = 2 ↔ g.diagnostics ≠ [] ∧ (s.value .failOnWarnings).truthy = true) := by
  rw [hexit, exitFor, (report_eq_ok hreport).1]
  cases hdiagnostics : g.diagnostics <;>
    cases hfails : (s.value .failOnWarnings).truthy <;> simp [Exit.code]

end

section

variable [Machine] [Template.Renderer] [Console] {w : Surroundings} {a : GenerateArguments}
  {s : Settings} {o o' : Outcome}

theorem build_eq_ok {description : Value} (houtput : o.output = .nothing)
    (h : build o a s description = .ok o') : Outcome.Refused o o' ∨ ∃ d g r path,
      Document.ofValue description = .ok d ∧
      (Generator.ofSettings s).report o.files d = (.ok (.ok r), g) ∧
      target a s r.metadata = .ok path ∧ Emitted o.files r.code o' path ∧
      o'.exit = exitFor s r := by
  rcases Outcome.after_eq_ok h with ⟨d, hd, h⟩ | h
  · cases hreport : (Generator.ofSettings s).report o.files d with
    | mk reported g =>
      rw [hreport] at h
      have hkeeps : Outcome.Keeps o (o.logged (Log.ofDiagnostics g.diagnostics)) := ⟨rfl, rfl⟩
      rcases Outcome.after_eq_ok h with ⟨reported, rfl, h⟩ | h
      · cases reported with
        | error e =>
          obtain ⟨⟨houtput, hfiles⟩, hexit⟩ := Outcome.refused_of_refused h
          exact .inl ⟨⟨houtput, hfiles⟩, hexit⟩
        | ok r =>
          rcases deliver_eq_ok (hkeeps.output.trans houtput) h with h | ⟨path, hpath, h⟩
          · exact .inl (hkeeps.refused h)
          · exact .inr ⟨d, g, r, path, hd, hreport, hpath, h⟩
      · exact .inl (hkeeps.refused h)
  · exact .inl h

/-- A command that generates code has failed and written nothing, or it has written the code. -/
theorem generate_eq_ok (h : generate w a = .ok o) :
    Outcome.Refused (.initial w.files) o ∨ ∃ code, Delivers w a code o := by
  have hkeeps (log : List Log.Record) :
    Outcome.Keeps (.initial w.files) ((Outcome.initial w.files).logged log) := ⟨rfl, rfl⟩
  rcases Outcome.after_eq_ok h with ⟨loaded, hloaded, h⟩ | h
  · rcases Outcome.after_eq_ok h with ⟨⟨s, warnings⟩, hs, h⟩ | h
    · obtain ⟨s', hs', hs⟩ := Result.bind_eq_ok.mp hs
      obtain ⟨warnings', -, hs⟩ := Result.bind_eq_ok.mp hs
      cases hs
      obtain ⟨es, hes, -⟩ := Result.bind_eq_ok.mp ((Settings.load_map ..).symm.trans hs')
      rcases build_eq_ok rfl h with h | ⟨d, g, r, path, hd, hreport, hpath, hemitted, hexit⟩
      · exact .inl ((hkeeps _).refused h)
      · have hgenerates : Generates w a es s d g r := ⟨⟨loaded, hloaded, hd⟩, hes, hs', hreport⟩
        obtain ⟨hcodes, hwarned⟩ := code_of_exitFor hreport hexit
        rw [GenerateArguments.failOnWarnings_of_settings hes hs'] at hwarned
        exact .inr ⟨r.code, es, s, d, g, r, path, hgenerates, rfl,
          destined_of_target hgenerates hpath, hemitted, hcodes, hwarned⟩
    · exact .inl ((hkeeps _).refused h)
  · exact .inl ((hkeeps _).refused h)

end

section

variable {w : Surroundings} {a : GenerateArguments} {destination : Option Destination}
  {es es' : Entries Value} {s s' : Settings} {d d' : Document} {g g' : Generator} {r r' : Report}

theorem settings_of_destination {files : FileTree} (destination : Option Destination)
    (h : settings files a.settingsFile { a with destination := destination }.overrides = .ok s) :
    ∃ s₀ v, settings files a.settingsFile { a with destination := none }.overrides = .ok s₀ ∧
      s = GenerateArguments.withOutputFile s₀ v := by
  rw [GenerateArguments.settings_eq] at h
  cases hs : settings files a.settingsFile { a with destination := none }.overrides with
  | error f =>
    rw [hs] at h
    cases h
  | ok s₀ =>
    rw [hs] at h
    exact ⟨s₀, _, rfl, (Except.ok.inj h).symm⟩

variable [Machine] [Template.Renderer]

theorem report_withOutputFile (s : Settings) (v : Option Value) (files : FileTree) (d : Document) :
    ((Generator.ofSettings (GenerateArguments.withOutputFile s v)).report files d).1 =
      ((Generator.ofSettings s).report files d).1 := by
  cases v with
  | none => rfl
  | some v => exact Generator.report_put_outputFile s v files d

/-- Commands that differ in the destination only generate the same code. -/
theorem Generates.code_unique (h : Generates w a es s d g r)
    (h' : Generates w { a with destination := destination } es' s' d' g' r') :
    r'.code = r.code := by
  obtain ⟨loaded, hloaded, hd⟩ := h.document
  obtain ⟨loaded', hloaded', hd'⟩ := h'.document
  obtain rfl : loaded = loaded' := Except.ok.inj (hloaded.symm.trans hloaded')
  obtain rfl : d = d' := Except.ok.inj (hd.symm.trans hd')
  obtain ⟨s₀, v, hs₀, rfl⟩ := settings_of_destination a.destination h.settings
  obtain ⟨s₁, v', hs₁, rfl⟩ := settings_of_destination destination h'.settings
  obtain rfl : s₀ = s₁ := Except.ok.inj (hs₀.symm.trans hs₁)
  have hreport := congrArg Prod.fst h.report
  have hreport' := congrArg Prod.fst h'.report
  rw [report_withOutputFile] at hreport hreport'
  exact congrArg Report.code (Except.ok.inj (Except.ok.inj (hreport'.symm.trans hreport)))

theorem Delivers.same {code : String} {o o' : Outcome} (h : Delivers w a code o) {code' : String}
    (h' : Delivers w { a with destination := destination } code' o') : code' = code := by
  obtain ⟨es, s, d, g, r, path, hgenerates, rfl, -⟩ := h
  obtain ⟨es', s', d', g', r', path', hgenerates', rfl, -⟩ := h'
  exact hgenerates.code_unique hgenerates'

theorem Delivers.of_keeps {code : String} {o o' : Outcome} (h : Delivers w a code o)
    (hkeeps : Outcome.Keeps o o') (hexit : o'.exit = o.exit) : Delivers w a code o' := by
  obtain ⟨es, s, d, g, r, path, hgenerates, hcode, hdestined, hemitted, hcodes⟩ := h
  refine ⟨es, s, d, g, r, path, hgenerates, hcode, hdestined, ?_, hexit ▸ hcodes⟩
  cases hemitted with
  | standardOutput houtput hfiles =>
    exact .standardOutput (hkeeps.output.trans houtput) (hkeeps.files.trans hfiles)
  | file houtput hwritten =>
    exact .file (hkeeps.output.trans houtput) (hkeeps.files ▸ hwritten)

end

section

variable [Machine] [Template.Renderer] [Console] {w : Surroundings} {line : List String}
  {i : Invocation} {a : GenerateArguments} {o : Outcome}

theorem generate_of_run (hline : Invocation.ofLine line = .ok i)
    (htask : i.task = some (.generate a)) (h : run w line = .ok o) :
    ∃ o', generate w a = .ok o' ∧ Outcome.Keeps o' o ∧ o.exit = o'.exit := by
  unfold run at h
  rw [hline] at h
  dsimp only [Invocation.run] at h
  rw [htask] at h
  cases hlevel : i.level with
  | none =>
    rw [hlevel] at h
    cases h
  | some level =>
    rw [hlevel] at h
    obtain ⟨kept, -, h⟩ := Result.bind_eq_ok.mp h
    obtain ⟨o', ho', h⟩ := Result.bind_eq_ok.mp h
    cases h
    exact ⟨o', ho', ⟨rfl, rfl⟩, rfl⟩

/-- A command line for generating code fails and writes nothing, or it writes the code. -/
theorem run_eq_ok (hline : Invocation.ofLine line = .ok i) (htask : i.task = some (.generate a))
    (h : run w line = .ok o) :
    (o.exit.code = 1 ∧ o.output = .nothing ∧ o.files = w.files) ∨ ∃ code, Delivers w a code o := by
  obtain ⟨o', ho', hkeeps, hexit⟩ := generate_of_run hline htask h
  rcases generate_eq_ok ho' with hrefused | ⟨code, hdelivers⟩
  · obtain ⟨⟨houtput, hfiles⟩, hfailed⟩ := hrefused
    rw [hexit, hfailed, hkeeps.output, houtput, hkeeps.files, hfiles]
    exact .inl ⟨rfl, rfl, rfl⟩
  · exact .inr ⟨code, hdelivers.of_keeps hkeeps hexit⟩

/-- The exit code and what is written agree: either the exit code is 1 and nothing is written, or it
is 0 or 2 and the generated code is written, to the one place that the destination and the settings
choose. Another destination makes no difference to the code. -/
theorem run_delivers (hline : Invocation.ofLine line = .ok i)
    (htask : i.task = some (.generate a)) (h : run w line = .ok o) :
    (o.exit.code = 1 ∧ o.output = .nothing ∧ o.files = w.files) ∨
      ∃ code, Delivers w a code o ∧
        ∀ line' i' destination o', Invocation.ofLine line' = .ok i' →
          i'.task = some (.generate { a with destination := destination }) →
          run w line' = .ok o' → o'.exit.code ≠ 1 →
          Delivers w { a with destination := destination } code o' := by
  refine (run_eq_ok hline htask h).imp_right fun ⟨code, hdelivers⟩ => ⟨code, hdelivers, ?_⟩
  intro line' i' destination o' hline' htask' h' hexit
  rcases run_eq_ok hline' htask' h' with ⟨hfailed, -⟩ | ⟨code', hdelivers'⟩
  · exact absurd hfailed hexit
  · exact hdelivers.same hdelivers' ▸ hdelivers'

/-- What has been generated is delivered. -/
theorem exists_generate_eq {loaded : Loading.Loaded} {d : Document} {s : Settings}
    {warnings : List String} {r : Report} (hloaded : (document w a).result = .ok loaded)
    (hs : checkedSettings w.files a = .ok (s, warnings))
    (hd : Document.ofValue loaded.description = .ok d)
    (hreport : ((Generator.ofSettings s).report w.files d).1 = .ok (.ok r)) :
    ∃ o, Outcome.Keeps (.initial w.files) o ∧ generate w a = deliver o a s r := by
  rw [generate, Outcome.after_ok _ hloaded, Outcome.after_ok _ hs]
  dsimp only [build]
  rw [Outcome.after_ok _ hd]
  simp only [Outcome.files_logged, Outcome.files_initial]
  rw [Outcome.after_ok _ hreport]
  refine ⟨_, ?_, rfl⟩
  exact ⟨rfl, rfl⟩

theorem exists_run_of_generate {level : Log.Level}
    (hline : Invocation.ofLine line = .ok ⟨some level, some (.generate a)⟩)
    (h : generate w a = .ok o) : ∃ o', run w line = .ok o' ∧ o'.exit = o.exit := by
  unfold run
  rw [hline]
  dsimp only [Invocation.run]
  rw [h]
  exact ⟨_, rfl, rfl⟩

/-- Code that comes without warnings reaches standard output. -/
theorem exists_run {loaded : Loading.Loaded} {d : Document} {s : Settings} {warnings : List String}
    {r : Report} {level : Log.Level}
    (hline : Invocation.ofLine line = .ok ⟨some level, some (.generate a)⟩)
    (hloaded : (document w a).result = .ok loaded)
    (hs : checkedSettings w.files a = .ok (s, warnings))
    (hd : Document.ofValue loaded.description = .ok d)
    (hreport : ((Generator.ofSettings s).report w.files d).1 = .ok (.ok r))
    (hwarnings : r.warnings = []) (htarget : target a s r.metadata = .ok none)
    (hverbose : a.verbose = false) {blank : String} (hblank : Console.display "" = .ok blank) :
    ∃ o, run w line = .ok o ∧ o.exit = .done := by
  obtain ⟨o, -, hgenerate⟩ := exists_generate_eq hloaded hs hd hreport
  rw [deliver_eq, hwarnings, Outcome.warned_nil _ hblank, Result.ok_bind,
    Outcome.after_ok _ htarget] at hgenerate
  exact exists_run_of_generate hline
    (hgenerate.trans (finish_of_no_warnings _ s hwarnings hverbose))

end

section

open Componentry.Program

/-- A page with a name and nothing else, on standard input. -/
def standardInput : Surroundings := ⟨.empty, "\x7b\"name\":\"Page\"\x7d", fun _ => .timedOut⟩

theorem run_delivers_page : ∃ o, run standardInput ["generate", "--stdin"] = .ok o ∧
    ∃ code, Delivers standardInput { source := some .stdin } code o := by
  have hsettings : ∃ s, checkedSettings standardInput.files { source := some .stdin } =
      .ok (s, []) ∧ s = Settings.default := by
    refine ⟨_, rfl, congrArg Settings.mk (funext fun k => ?_)⟩
    cases k <;> rfl
  obtain ⟨s, hs, rfl⟩ := hsettings
  obtain ⟨d, hd⟩ : ∃ d, Document.ofValue (.map [(.str "name", .str "Page")]) = .ok d := ⟨_, rfl⟩
  have hreport : ∃ r, ((Generator.ofSettings Settings.default).report .empty d).1 = .ok (.ok r) ∧
      r.warnings = [] := by
    cases hd
    rw [Generator.report_eq, Generator.generate_framed Program.Template.fillsFrames
      (Settings.usesFrames rfl .empty)]
    exact ⟨_, rfl, rfl⟩
  obtain ⟨r, hr, hwarnings⟩ := hreport
  have hline : Invocation.ofLine ["generate", "--stdin"] =
      .ok ⟨some .warning, some (.generate { source := some .stdin })⟩ := rfl
  have hloaded : (document standardInput { source := some .stdin }).result =
      .ok ⟨"<stdin>", .map [(.str "name", .str "Page")]⟩ := rfl
  have hblank : Console.display "" = .ok "" := rfl
  obtain ⟨o, ho, hdone⟩ := exists_run hline hloaded hs hd hr hwarnings rfl rfl hblank
  rcases run_delivers hline rfl ho with ⟨hfailed, -⟩ | ⟨code, hdelivers, -⟩
  · rw [hdone] at hfailed
    cases hfailed
  · exact ⟨o, ho, code, hdelivers⟩

end

end Command

end Componentry
