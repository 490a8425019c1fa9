import Componentry.Proofs.Result
import Componentry.Template.Engine

/-!
# What is relied on of a renderer

A renderer is given the frames, and it is relied on to fill them: where no file of the directory
stands in front of a frame, its rendering is the script below the header. It is further relied on to
render the same again, as long as the files and the templates stay the same: what it has read and
kept makes no difference then.
-/

namespace Componentry.Template

/-- The content of the file that stands in front of the given templates of a name. -/
def Sources.front? (sources : Sources) (files : FileTree) (name : String) : Option ByteArray := do
  let directory ← sources.directory
  let p : Path := { directory with parts := directory.parts ++ [name] }
  (files.read (fun _ => .fault .refused) p).toOption

variable [Renderer]

/-- A frame that was given, with no file in front of it, is rendered as what it stands for. -/
def FillsFrames : Prop :=
  ∀ (files : FileTree) (sources : Sources) (f : Frame) (header : Option String) (script : String),
    f ∈ Frame.all → sources.given.lookup f.name = some f.source →
    sources.front? files f.name = none → header ≠ some "" →
    Renderer.render [] ⟨files, sources, f.name, Frame.context header script⟩ =
      .ok (f.fill header script)

/-- Renderings of the same files and templates make no difference to those behind them. -/
def IgnoresPast : Prop :=
  ∀ (past : List Rendering) (r : Rendering),
    (∀ p ∈ past, p.files = r.files ∧ p.sources = r.sources) →
    Renderer.render past r = Renderer.render [] r

namespace Engine

omit [Renderer] in
theorem framing_made {files : FileTree} {directory : Option Path} {e : Engine}
    (h : framing files directory = .ok e) :
    e.past = [] ∧ e.sources.given = Frame.all.map fun f => (f.name, f.source) := by
  obtain ⟨made, hmade, h⟩ := Result.bind_eq_ok.mp h
  cases h
  cases directory with
  | none =>
    cases hmade
    exact ⟨rfl, rfl⟩
  | some p =>
    obtain ⟨b, -, hmade⟩ := Result.bind_eq_ok.mp hmade
    cases hmade
    exact ⟨rfl, rfl⟩

/-- An engine with the frames fills a frame, unless a file is in front of it. -/
theorem render_framing (hfills : FillsFrames) {files : FileTree} {directory : Option Path}
    {e : Engine} (h : framing files directory = .ok e) {f : Frame} (hf : f ∈ Frame.all)
    (hfront : e.sources.front? files f.name = none) {header : Option String}
    (hheader : header ≠ some "") (script : String) :
    (e.render files f.name (Frame.context header script)).1 = .ok (f.fill header script) := by
  obtain ⟨hpast, hgiven⟩ := framing_made h
  have hlookup : e.sources.given.lookup f.name = some f.source := by
    rw [hgiven]
    simp only [Frame.all, List.mem_cons, List.not_mem_nil, or_false] at hf
    rcases hf with rfl | rfl <;> rfl
  rw [render, hpast, hfills files e.sources f header script hf hlookup hfront hheader]
  rfl

variable {files : FileTree} {e e' : Engine}

/-- Whatever an engine has rendered, it has rendered of the same files and templates. -/
def Steady (files : FileTree) (e : Engine) : Prop :=
  ∀ r ∈ e.past, r.files = files ∧ r.sources = e.sources

/-- Rendering leaves an engine steady, with its templates. -/
theorem Steady.render (h : e.Steady files) (name : String) (context : Entries Value) :
    (e.render files name context).2.Steady files ∧
      (e.render files name context).2.sources = e.sources :=
  ⟨List.forall_mem_cons.mpr ⟨⟨rfl, rfl⟩, h⟩, rfl⟩

/-- Steady engines with the same templates render the same. -/
theorem Steady.render_congr (hignores : IgnoresPast) (h : e.Steady files) (h' : e'.Steady files)
    (hsources : e.sources = e'.sources) (name : String) (context : Entries Value) :
    (e.render files name context).1 = (e'.render files name context).1 := by
  have hrender : ∀ e : Engine, e.Steady files → (e.render files name context).1 =
      (Renderer.render [] ⟨files, e.sources, name, context⟩).mapError (Failure.template name) :=
    fun e he => congrArg (Except.mapError (Failure.template name)) (hignores e.past _ he)
  rw [hrender e h, hrender e' h', hsources]

end Engine

end Componentry.Template
