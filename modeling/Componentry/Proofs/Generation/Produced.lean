import Componentry.Generation.Generator
import Componentry.Proofs.Template.Rendered

/-!
# What a generator produces

A generator without templates of its own puts the printed declaration of a component into one of the
two frames. What it is asked for changes neither its settings nor its quote; the diagnostics that it
holds afterwards are those of the declaration.
-/

namespace Componentry

open Template (Frame FillsFrames)

namespace Settings

/-- The frame that the settings ask for. -/
def frame (s : Settings) : Frame := if s.plainScript then .plain else .markup

/-- What the settings ask for is framed by one of the two frames: there is an engine, and no file is
in front of the frame. -/
def UsesFrames (files : FileTree) (s : Settings) : Prop :=
  ∃ e, (Generator.ofSettings s).engineFor files = .ok e ∧
    e.sources.front? files s.frame.name = none

variable {s : Settings}

theorem usesFrames (hdirectory : (s.value .templateDir).truthy = false) (files : FileTree) :
    s.UsesFrames files := by
  have hfor : (Generator.ofSettings s).engineFor files = Template.Engine.framing files none := by
    rw [Generator.engineFor]
    exact if_neg (Bool.not_eq_true _ ▸ hdirectory)
  exact ⟨_, hfor, rfl⟩

theorem frame_mem_all (s : Settings) : s.frame ∈ Frame.all := by
  unfold frame
  split_ifs <;> decide

theorem name_frame (s : Settings) : s.frame.name = "component" ++ s.extension := by
  have hmarkup : "component.vue" = "component" ++ ".vue" := by decide
  have hplain : "component.js" = "component" ++ ".js" := by decide
  rw [frame, extension]
  cases s.plainScript
  · exact hmarkup
  · exact hplain

end Settings

/-- What generation comes to where it fails: errors of generation are reported, other failures are
let through. -/
def Failure.reported : Failure → Result Reported
  | .generation e => .ok (.error e)
  | f => .error f

namespace Generator

theorem header_eq (name : String) :
    header name = "Generated from UIDL component " ++ name ++ ". Do not edit by hand." := rfl

theorem header_ne_empty (name : String) : header name ≠ "" := by
  intro h
  have hbehind : ". Do not edit by hand." ≠ "" := by decide
  exact hbehind (String.append_eq_empty_iff.mp h).2

theorem headerFor_ne_empty {s : Settings} {name : Value} {h : Option String}
    (hheader : headerFor s name = .ok h) : h ≠ some "" := by
  unfold headerFor at hheader
  split_ifs at hheader
  · obtain ⟨t, -, hheader⟩ := Result.bind_eq_ok.mp hheader
    cases hheader
    exact fun heq => header_ne_empty t (Option.some.inj heq)
  · cases hheader
    exact nofun

theorem headerFor_str (s : Settings) (name : String) : headerFor s (.str name) =
    .ok (if (s.value .addComments).truthy then some (header name) else none) := by
  unfold headerFor
  split_ifs <;> rfl

theorem framing_of_engineFor {s : Settings} {files : FileTree} {e : Template.Engine}
    (h : (ofSettings s).engineFor files = .ok e) :
    ∃ directory, Template.Engine.framing files directory = .ok e := by
  unfold engineFor ofSettings at h
  dsimp only at h
  split at h
  · obtain ⟨directory, -, h⟩ := Result.bind_eq_ok.mp h
    exact ⟨_, h⟩
  · exact ⟨none, h⟩

theorem format_congr {g g' : Generator} (h : g'.settings = g.settings) (code : String) :
    g'.format code = g.format code := by
  rw [format, format, h]

theorem script_eq [Machine] (g : Generator) (d : Document) :
    (g.script d).result =
      d.declaration.result >>= fun n => Script.print g.style n >>= Value.inserted := by
  simp only [Generator.script, Recorded.result_bind, Recorded.result_liftM]

section

variable [Template.Renderer] {files : FileTree}

theorem frame_eq (g : Generator) (files : FileTree) (name : Value) (script : String) :
    g.frame files name script =
      match headerFor g.settings name with
      | .error f => (.error f, g)
      | .ok header =>
        match g.engineFor files with
        | .error f => (.error f, g)
        | .ok engine =>
          let (code, engine) := engine.render files ("component" ++ g.settings.extension)
            (Frame.context header script)
          (code, { g with engine := some engine }) := by
  unfold frame
  cases headerFor g.settings name with
  | error f => rfl
  | ok header => cases g.engineFor files <;> rfl

theorem frame_fst (g : Generator) (files : FileTree) (name : Value) (script : String) :
    (g.frame files name script).1 = headerFor g.settings name >>= fun header =>
      g.engineFor files >>= fun e =>
        (e.render files ("component" ++ g.settings.extension) (Frame.context header script)).1 := by
  rw [frame_eq]
  cases headerFor g.settings name with
  | error f => rfl
  | ok header => cases g.engineFor files <;> rfl

theorem code_of_frame (hfills : FillsFrames) {g : Generator} (hengine : g.engine = none)
    (hframes : g.settings.UsesFrames files) (name : Value) (script : String) :
    (g.frame files name script).1 =
      headerFor g.settings name >>= fun h => .ok (g.settings.frame.fill h script) := by
  obtain ⟨e, he, hfront⟩ := hframes
  obtain ⟨directory, hframing⟩ := framing_of_engineFor he
  have hfor : g.engineFor files = .ok e := by
    rw [← he, engineFor, hengine]
    rfl
  rw [frame_fst, hfor]
  cases hheader : headerFor g.settings name with
  | error f => rfl
  | ok header =>
    rw [← g.settings.name_frame]
    exact Template.Engine.render_framing hfills hframing g.settings.frame_mem_all hfront
      (headerFor_ne_empty hheader) script

theorem settings_frame (g : Generator) (files : FileTree) (name : Value) (script : String) :
    (g.frame files name script).2.settings = g.settings := by
  rw [frame_eq]
  cases headerFor g.settings name with
  | error f => rfl
  | ok header => cases g.engineFor files <;> rfl

theorem diagnostics_frame (g : Generator) (files : FileTree) (name : Value) (script : String) :
    (g.frame files name script).2.diagnostics = g.diagnostics := by
  rw [frame_eq]
  cases headerFor g.settings name with
  | error f => rfl
  | ok header => cases g.engineFor files <;> rfl

variable [Machine]

theorem settings_generate (g : Generator) (files : FileTree) (d : Document) :
    (g.generate files d).2.settings = g.settings := by
  unfold generate
  dsimp only
  cases (g.script d).result with
  | error e => rfl
  | ok script => exact settings_frame _ files _ script

theorem diagnostics_generate (g : Generator) (files : FileTree) (d : Document) :
    (g.generate files d).2.diagnostics = (g.script d).diagnostics := by
  unfold generate
  dsimp only
  cases (g.script d).result with
  | error e => rfl
  | ok script => exact diagnostics_frame _ files _ script

/-- A report of what was generated: errors of generation count as reported, other failures do
not. -/
def reported (g : Generator) (d : Document) (diagnostics : List Diagnostic) :
    Result String → Result Reported
  | .error (.generation e) => .ok (.error e)
  | .error f => .error f
  | .ok code => (g.format code).map fun formatted =>
    .ok ⟨formatted, diagnostics.map Diagnostic.text, g.metadata d⟩

theorem report_eq (g : Generator) (files : FileTree) (d : Document) :
    (g.report files d).1 =
      g.reported d (g.script d).diagnostics (g.generate files d).1 := by
  have hsettings := settings_generate g files d
  have hdiagnostics := diagnostics_generate g files d
  unfold report
  cases hcode : g.generate files d with
  | mk code g' =>
    rw [hcode] at hsettings hdiagnostics
    cases code with
    | error f => cases f <;> rfl
    | ok code =>
      have hmetadata : g'.metadata d = g.metadata d := by
        rw [metadata, metadata, hsettings]
      dsimp only [reported]
      rw [format_congr hsettings, hmetadata, hdiagnostics]
      cases g.format code <;> rfl

theorem report_of_script {g : Generator} {d : Document} {f : Failure}
    (h : (g.script d).result = .error f) (files : FileTree) :
    (g.report files d).1 = f.reported := by
  have hgenerate : (g.generate files d).1 = .error f := by
    rw [generate, h]
  rw [report_eq, hgenerate]
  cases f <;> rfl

theorem report_ok_iff {g : Generator} {files : FileTree} {d : Document} {formatted : String} :
    (∃ r, (g.report files d).1 = .ok (.ok r) ∧ r.code = formatted) ↔
      ∃ code, (g.generate files d).1 = .ok code ∧ g.format code = .ok formatted := by
  rw [report_eq]
  cases (g.generate files d).1 with
  | error f => cases f <;> simp [reported]
  | ok code =>
    cases hformat : g.format code <;> simp [reported, hformat, Except.map]

/-- What is generated is a script in a frame, where the frames are used. -/
theorem generate_framed (hfills : FillsFrames) {s : Settings} (hframes : s.UsesFrames files)
    (d : Document) :
    ((ofSettings s).generate files d).1 =
      ((ofSettings s).script d).result >>= fun script =>
        headerFor s d.component.name >>= fun h => .ok (s.frame.fill h script) := by
  unfold generate
  dsimp only
  cases ((ofSettings s).script d).result with
  | error e => rfl
  | ok script => exact code_of_frame hfills rfl hframes _ script

theorem code_framed (hfills : FillsFrames) {s : Settings} (hframes : s.UsesFrames files)
    {d : Document} {code : String} (h : ((ofSettings s).generate files d).1 = .ok code) :
    ∃ n v script header, d.declaration.result = .ok n ∧ Script.print s.style n = .ok v ∧
      v.inserted = .ok script ∧ headerFor s d.component.name = .ok header ∧
      code = s.frame.fill header script := by
  rw [generate_framed hfills hframes, script_eq] at h
  obtain ⟨script, hscript, h⟩ := Result.bind_eq_ok.mp h
  obtain ⟨n, hn, hscript⟩ := Result.bind_eq_ok.mp hscript
  obtain ⟨v, hv, hscript⟩ := Result.bind_eq_ok.mp hscript
  obtain ⟨header, hheader, h⟩ := Result.bind_eq_ok.mp h
  exact ⟨n, v, script, header, hn, hv, hscript, hheader, (Except.ok.inj h).symm⟩

/-- The code of a report is a formatted script in a frame, where the frames are used. -/
theorem report_framed (hfills : FillsFrames) {s : Settings} (hframes : s.UsesFrames files)
    {ending : String} (hending : s.value .lineEnding = .str ending) {d : Document} {r : Report}
    (hr : ((ofSettings s).report files d).1 = .ok (.ok r)) :
    ∃ n v script header, d.declaration.result = .ok n ∧ Script.print s.style n = .ok v ∧
      v.inserted = .ok script ∧ headerFor s d.component.name = .ok header ∧
      r.code = Formatting.format ending (s.frame.fill header script) := by
  obtain ⟨code, hcode, hformat⟩ := report_ok_iff.mp ⟨r, hr, rfl⟩
  obtain ⟨n, v, script, header, hn, hv, hscript, hheader, rfl⟩ := code_framed hfills hframes hcode
  refine ⟨n, v, script, header, hn, hv, hscript, hheader, ?_⟩
  rw [format, ofSettings, hending] at hformat
  exact (Except.ok.inj hformat).symm

end

end Generator

end Componentry
