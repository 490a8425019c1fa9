import Componentry.Program.Machine
import Componentry.Proofs.Generation.Produced
import Componentry.Proofs.Template.Framed
import Mathlib.Tactic.SplitIfs

/-!
# A generator and its history

A generator is asked for components again and again, and its settings are assigned in between. What
it makes of a component depends on its history in three settings only: the quote and the end of
statements are those that it was made with, and the directory of templates is the one that it had
when the first component was framed. Apart from those it is like a generator that was made just now.
-/

namespace Componentry

namespace Generator

open Template (Engine IgnoresPast)

/-- What a generator is asked to do. -/
inductive Step where
  | assign (name : String) (v : Value)
  | generate (d : Document)
  | report (d : Document)
  | format (code : String)

section

variable [Machine] [Template.Renderer]

/-- The generator after a step; an assignment that is refused changes nothing. -/
def step (files : FileTree) (g : Generator) : Step → Generator
  | .assign name v => (g.assign name v).toOption.getD g
  | .generate d => (g.generate files d).2
  | .report d => (g.report files d).2
  | .format _ => g

def after (files : FileTree) (g : Generator) (steps : List Step) : Generator :=
  steps.foldl (step files) g

end

/-- Whether a generator that was made just now gets to framing a component: its script can be
printed, there is a header if one is asked for, and there is an engine to frame it. -/
def reachesFrame [Machine] (files : FileTree) (s : Settings) (d : Document) : Bool :=
  match ((ofSettings s).script d).result, headerFor s d.component.name,
    (ofSettings s).engineFor files with
  | .ok _, .ok _, .ok _ => true
  | _, _, _ => false

/-- What counts of the past of a generator: the settings as they are now, and the directory of
templates as it was when the first component was framed. -/
structure History where
  current : Settings
  directory : Option Value

namespace History

/-- The settings that a generator works with, given those that it was made with. -/
def held (made : Settings) (h : History) : Settings :=
  ((h.current.put .quoteStyle (made.value .quoteStyle)).put .semicolons
    (made.value .semicolons)).put .templateDir (h.directory.getD (h.current.value .templateDir))

section

variable [Machine]

def run (files : FileTree) (made : Settings) (h : History) (d : Document) : History :=
  match h.directory with
  | some _ => h
  | none =>
    if reachesFrame files (h.held made) d then ⟨h.current, some (h.current.value .templateDir)⟩
    else h

def step (files : FileTree) (made : Settings) (h : History) : Step → History
  | .assign name v => { h with current := (h.current.assign name v).toOption.getD h.current }
  | .generate d => h.run files made d
  | .report d => h.run files made d
  | .format _ => h

/-- The past of a generator that was made with some settings and has done some steps. -/
def after (files : FileTree) (made : Settings) (steps : List Step) : History :=
  steps.foldl (step files made) ⟨made, none⟩

end

end History

section

variable (made : Settings) (h : History)

theorem style_held [Machine] : (ofSettings (h.held made)).style =
    ⟨made.quote, made.terminator, h.current.margin⟩ := rfl

theorem headerFor_held (name : Value) :
    headerFor (h.held made) name = headerFor h.current name := rfl

theorem extension_held : (h.held made).extension = h.current.extension := rfl

end

/-- The engine for a directory of templates. -/
def engineIn (files : FileTree) (directory : Value) : Result Engine := do
  if directory.truthy then Engine.framing files (some (.ofString (← directory.text)))
  else Engine.framing files none

theorem engineFor_eq (g : Generator) (files : FileTree) :
    g.engineFor files = match g.engine with
      | some e => .ok e
      | none => engineIn files (g.settings.value .templateDir) := rfl

theorem past_engineIn {files : FileTree} {directory : Value} {e : Engine}
    (h : engineIn files directory = .ok e) : e.past = [] := by
  unfold engineIn at h
  split_ifs at h
  · obtain ⟨s, -, h⟩ := Result.bind_eq_ok.mp h
    exact (Engine.framing_made h).1
  · exact (Engine.framing_made h).1

/-- An engine has the templates of one that is made now for a directory, and has rendered no
others. -/
structure FindsIn (files : FileTree) (directory : Value) (e : Engine) : Prop where
  steady : e.Steady files
  made : ∃ e', engineIn files directory = .ok e' ∧ e.sources = e'.sources

theorem FindsIn.of_engineIn {files : FileTree} {directory : Value} {e : Engine}
    (h : engineIn files directory = .ok e) : FindsIn files directory e := by
  refine ⟨?_, e, h, rfl⟩
  rw [Engine.Steady, past_engineIn h]
  exact nofun

/-- A generator has the past `h` and was made with the settings `made`. -/
structure Follows (files : FileTree) (made : Settings) (h : History) (g : Generator) : Prop where
  settings : g.settings = h.current
  quote : g.quote = made.quote
  terminator : g.terminator = made.terminator
  unframed : h.directory = none → g.engine = none
  framed : ∀ v, h.directory = some v → ∃ e, g.engine = some e ∧ FindsIn files v e

/-- The directory of templates for a past: the one that is held, or else the current one. -/
def History.directoryNow (h : History) : Value :=
  h.directory.getD (h.current.value .templateDir)

section

variable [Template.Renderer]

theorem FindsIn.render {files : FileTree} {directory : Value} {e : Engine}
    (h : FindsIn files directory e) (name : String) (context : Entries Value) :
    FindsIn files directory (e.render files name context).2 := by
  obtain ⟨hsteady, hsources⟩ := h.steady.render name context
  obtain ⟨e', hmade, hsources'⟩ := h.made
  exact ⟨hsteady, e', hmade, hsources.trans hsources'⟩

theorem frame_recorded (g : Generator) (ds : List Diagnostic) (files : FileTree) (name : Value)
    (script : String) :
    (frame { g with diagnostics := ds } files name script).1 = (g.frame files name script).1 := by
  rw [frame_fst, frame_fst]
  rfl

theorem frame_snd {g : Generator} {files : FileTree} {e : Engine} {header : Option String}
    {name : Value} (hheader : headerFor g.settings name = .ok header)
    (h : g.engineFor files = .ok e) (script : String) :
    (g.frame files name script).2 = { g with engine := some (e.render files
      ("component" ++ g.settings.extension) (Template.Frame.context header script)).2 } := by
  rw [frame_eq, hheader, h]

end

section

variable {files : FileTree} {made : Settings} {h : History} {g : Generator}

theorem FindsIn.render_eq [Template.Renderer] (hignores : IgnoresPast) {directory : Value}
    {e e' : Engine} (he : FindsIn files directory e) (he' : FindsIn files directory e')
    (name : String) (context : Entries Value) :
    (e.render files name context).1 = (e'.render files name context).1 := by
  obtain ⟨e₁, hmade, hsources⟩ := he.made
  obtain ⟨e₂, hmade', hsources'⟩ := he'.made
  obtain rfl : e₁ = e₂ := Except.ok.inj (hmade.symm.trans hmade')
  exact he.steady.render_congr hignores he'.steady (hsources.trans hsources'.symm) name context

theorem Follows.script_eq [Machine] (hg : Follows files made h g) (d : Document) :
    g.script d = (ofSettings (h.held made)).script d := by
  have hstyle : g.style = (ofSettings (h.held made)).style := by
    rw [style_held, style, hg.settings, hg.quote, hg.terminator]
  rw [script, script, hstyle]

theorem Follows.headerFor_eq (hg : Follows files made h g) (name : Value) :
    headerFor (h.held made) name = headerFor g.settings name := by
  rw [headerFor_held, hg.settings]

theorem Follows.extension_eq (hg : Follows files made h g) :
    g.settings.extension = (ofSettings (h.held made)).settings.extension := by
  rw [hg.settings]
  exact (extension_held made h).symm

/-- A generator and one made just now both fail for want of an engine, or they both have one and
find the same. -/
theorem Follows.engineFor (hg : Follows files made h g) :
    (∃ f, g.engineFor files = .error f ∧
        (ofSettings (h.held made)).engineFor files = .error f) ∨
      ∃ e e', g.engineFor files = .ok e ∧ (ofSettings (h.held made)).engineFor files = .ok e' ∧
        FindsIn files h.directoryNow e ∧ FindsIn files h.directoryNow e' := by
  have hfresh : (ofSettings (h.held made)).engineFor files = engineIn files h.directoryNow := rfl
  rw [hfresh, engineFor_eq]
  cases hdirectory : h.directory with
  | none =>
    have hnow : h.directoryNow = g.settings.value .templateDir := by
      rw [History.directoryNow, hdirectory, hg.settings]
      rfl
    rw [hg.unframed hdirectory, hnow]
    dsimp only
    cases hmade : engineIn files (g.settings.value .templateDir) with
    | error f => exact .inl ⟨f, rfl, rfl⟩
    | ok e => exact .inr ⟨e, e, rfl, rfl, .of_engineIn hmade, .of_engineIn hmade⟩
  | some v =>
    have hnow : h.directoryNow = v := by
      rw [History.directoryNow, hdirectory]
      rfl
    obtain ⟨e, hengine, hfinds⟩ := hg.framed v hdirectory
    obtain ⟨e', hmade, -⟩ := hfinds.made
    rw [hengine, hnow, hmade]
    exact .inr ⟨e, e', rfl, rfl, hfinds, .of_engineIn hmade⟩

/-- The diagnostics of a generator do not count for its past. -/
theorem Follows.recorded (hg : Follows files made h g) (ds : List Diagnostic) :
    Follows files made h { g with diagnostics := ds } :=
  ⟨hg.settings, hg.quote, hg.terminator, hg.unframed, hg.framed⟩

/-- Whatever engine a component is framed by, its directory is held from then on. -/
theorem Follows.framed_by [Template.Renderer] (hg : Follows files made h g) {e : Engine}
    (hfinds : FindsIn files h.directoryNow e) (header : Option String) (script : String) :
    Follows files made
      (match h.directory with
        | some _ => h
        | none => ⟨h.current, some (h.current.value .templateDir)⟩)
      { g with engine := some (e.render files ("component" ++ g.settings.extension)
        (Template.Frame.context header script)).2 } := by
  have hrendered := hfinds.render ("component" ++ g.settings.extension)
    (Template.Frame.context header script)
  cases hdirectory : h.directory with
  | none =>
    rw [History.directoryNow, hdirectory] at hrendered
    refine ⟨hg.settings, hg.quote, hg.terminator, fun hnone => by simp at hnone, ?_⟩
    intro v hv
    obtain rfl := Option.some.inj hv
    exact ⟨_, rfl, hrendered⟩
  | some v =>
    rw [History.directoryNow, hdirectory] at hrendered
    refine ⟨hg.settings, hg.quote, hg.terminator, fun hnone => ?_, ?_⟩
    · cases hdirectory.symm.trans hnone
    · intro w hw
      obtain rfl := Option.some.inj (hdirectory.symm.trans hw)
      exact ⟨_, rfl, hrendered⟩

section

variable [Machine] [Template.Renderer]

theorem generate_fst (g : Generator) (files : FileTree) (d : Document) :
    (g.generate files d).1 = (g.script d).result >>= fun script =>
      (frame { g with diagnostics := (g.script d).diagnostics } files d.component.name
        script).1 := by
  unfold generate
  dsimp only
  cases (g.script d).result <;> rfl

/-- A run leaves its trace in the past of a generator. -/
theorem Follows.generate (hg : Follows files made h g) (d : Document) :
    Follows files made (h.run files made d) (g.generate files d).2 := by
  have hg' := hg.recorded (g.script d).diagnostics
  unfold Generator.generate History.run reachesFrame
  dsimp only
  rw [← hg.script_eq, hg.headerFor_eq]
  cases (g.script d).result with
  | error f =>
    dsimp only
    cases h.directory <;> exact hg'
  | ok script =>
    dsimp only
    cases hheader : headerFor g.settings d.component.name with
    | error f =>
      have hkept : (frame { g with diagnostics := (g.script d).diagnostics } files
          d.component.name script).2 = { g with diagnostics := (g.script d).diagnostics } := by
        rw [Generator.frame_eq, hheader]
      rw [hkept]
      cases h.directory <;> exact hg'
    | ok header =>
      rcases hg'.engineFor with ⟨f, hf, hf'⟩ | ⟨e, e', he, he', hfinds, -⟩
      · have hkept : (frame { g with diagnostics := (g.script d).diagnostics } files
            d.component.name script).2 = { g with diagnostics := (g.script d).diagnostics } := by
          rw [Generator.frame_eq, hheader, hf]
        rw [hf', hkept]
        cases h.directory <;> exact hg'
      · have hframed := frame_snd (g := { g with diagnostics := (g.script d).diagnostics })
          hheader he script
        rw [he', hframed]
        exact hg'.framed_by hfinds header _

end

section

variable [Template.Renderer] (hignores : IgnoresPast)

include hignores

theorem Follows.frame_eq (hg : Follows files made h g) (name : Value) (script : String) :
    (g.frame files name script).1 = ((ofSettings (h.held made)).frame files name script).1 := by
  have hheader : headerFor (ofSettings (h.held made)).settings name =
      headerFor g.settings name := hg.headerFor_eq name
  rw [frame_fst, frame_fst, hheader, hg.extension_eq]
  congr 1
  funext header
  rcases hg.engineFor with ⟨f, hf, hf'⟩ | ⟨e, e', he, he', hfinds, hfinds'⟩
  · rw [hf, hf']
  · rw [he, he']
    exact hfinds.render_eq hignores hfinds' _ _

variable [Machine]

theorem Follows.generate_eq (hg : Follows files made h g) (d : Document) :
    (g.generate files d).1 = ((ofSettings (h.held made)).generate files d).1 := by
  rw [generate_fst, generate_fst, hg.script_eq]
  congr 1
  funext script
  exact ((hg.recorded _).frame_eq hignores _ script).trans
    (frame_recorded (ofSettings (h.held made)) _ files _ script).symm

theorem Follows.report_eq (hg : Follows files made h g) (d : Document) :
    (g.report files d).1 = ((ofSettings (h.held made)).report files d).1 := by
  have hformat : g.format = (ofSettings (h.held made)).format := by
    funext code
    rw [format, hg.settings]
    rfl
  have hmetadata : g.metadata d = (ofSettings (h.held made)).metadata d := by
    rw [metadata, metadata, hg.extension_eq]
  rw [Generator.report_eq, Generator.report_eq, hg.generate_eq hignores, hg.script_eq]
  unfold reported
  rw [hformat, hmetadata]

end

end

section

variable (files : FileTree) (made : Settings)

theorem Follows.start : Follows files made ⟨made, none⟩ (ofSettings made) where
  settings := rfl
  quote := rfl
  terminator := rfl
  unframed _ := rfl
  framed _ hv := by cases hv

variable {files made}

section

variable [Machine] [Template.Renderer]

theorem Follows.step {h : History} {g : Generator} (hg : Follows files made h g) (p : Step) :
    Follows files made (h.step files made p) (g.step files p) := by
  cases p with
  | assign name v =>
    have hassign : g.assign name v = (h.current.assign name v).map fun s =>
        { g with settings := s } := by
      rw [assign, hg.settings]
      cases h.current.assign name v <;> rfl
    unfold History.step Generator.step
    dsimp only
    rw [hassign]
    cases h.current.assign name v with
    | error f => exact hg
    | ok s => exact ⟨rfl, hg.quote, hg.terminator, hg.unframed, hg.framed⟩
  | generate d => exact hg.generate d
  | report d => exact hg.generate d
  | format code => exact hg

theorem Follows.steps {h : History} {g : Generator} (hg : Follows files made h g)
    (ps : List Step) :
    Follows files made (ps.foldl (History.step files made) h) (g.after files ps) := by
  induction ps generalizing h g with
  | nil => exact hg
  | cons p ps ih => exact ih (hg.step p)

end

end

/-- After any steps a generator gives what one gives that is made just now with the settings that
are held: the same code or failure, the same report, and the same diagnostics behind either. -/
theorem runs_after_eq [Machine] [Template.Renderer] (hignores : IgnoresPast) (files : FileTree)
    (made : Settings) (steps : List Step) (d : Document) :
    let g := (ofSettings made).after files steps
    let fresh := ofSettings ((History.after files made steps).held made)
    (g.generate files d).1 = (fresh.generate files d).1 ∧
      (g.generate files d).2.diagnostics = (fresh.generate files d).2.diagnostics ∧
      (g.report files d).1 = (fresh.report files d).1 ∧
      (g.report files d).2.diagnostics = (fresh.report files d).2.diagnostics := by
  have hg := (Follows.start files made).steps steps
  have hdiagnostics : (((ofSettings made).after files steps).generate files d).2.diagnostics =
      ((ofSettings ((History.after files made steps).held made)).generate files
        d).2.diagnostics := by
    rw [diagnostics_generate, diagnostics_generate, hg.script_eq]
    rfl
  exact ⟨hg.generate_eq hignores d, hdiagnostics, hg.report_eq hignores d, hdiagnostics⟩

section

open Componentry.Program

def greeting : Document := ⟨⟨.str "Greeting", [], [(.str "text", .str "hi")]⟩, [], []⟩

def reassignments : List Step := [
  .generate greeting, .assign "quote_style" (.str "double"), .assign "use_tabs" (.bool true)]

def tabbedGreeting : String := Text.join "\n" [
  "<!-- Generated from UIDL component Greeting. Do not edit by hand. -->", "<script>",
  "export default \x7b", "\tname: 'Greeting',", "\tdata() \x7b", "\t\treturn \x7b",
  "\t\t\ttext: 'hi'", "\t\t\x7d", "\t\x7d", "\x7d", "</script>"]

/-- Of the quotes and the tabs that are assigned after a first run, only the tabs count. -/
theorem runs_after_eq_reassignments : IgnoresPast ∧
    (((ofSettings Settings.default).after default reassignments).generate default greeting).1 =
      .ok tabbedGreeting := by
  have hignores := Program.Template.ignoresPast
  have hframes : ((History.after default Settings.default reassignments).held
      Settings.default).UsesFrames default := Settings.usesFrames rfl default
  refine ⟨hignores, ?_⟩
  rw [(runs_after_eq hignores default Settings.default reassignments greeting).1,
    generate_framed Program.Template.fillsFrames hframes]
  rfl

end

end Generator

end Componentry
