import Componentry.Proofs.Command.Delivered
import Componentry.Proofs.Files.Reached
import Componentry.Proofs.Naming.Stems

/-!
# Files in the given directory

The file of a component is named by a stem and an extension, which together are one name and not the
name of the directory above. So whatever a component is called, its code is written to a file that
stands right in the given directory.
-/

namespace Componentry

namespace FileTree

/-- A file with some content has been written right in the directory that a path leads to, and all
else is as it was, apart from new directories. -/
def StandsIn (t t' : FileTree) (directory : Path) (file : String) (content : ByteArray) : Prop :=
  '/' ∉ file.toList ∧ ∃ above, t'.locate directory = .ok above ∧
    t'.find? above = some .directory ∧
    Written t t' (directory.child file) content (above ++ [file])

end FileTree

namespace Command

section

variable {t t' : FileTree} {directory name code : String} {s : Settings}

theorem extension_cases (s : Settings) : s.extension = ".js" ∨ s.extension = ".vue" := by
  rw [Settings.extension]
  split_ifs
  · exact .inl rfl
  · exact .inr rfl

theorem slash_not_mem_file (s : Settings) (name : String) :
    '/' ∉ (Naming.fileStem name ++ s.extension).toList := by
  rw [String.toList_append, List.mem_append, not_or]
  refine ⟨Naming.slash_not_mem_fileStem name, ?_⟩
  rcases extension_cases s with h | h <;> rw [h] <;> decide

theorem file_ne_above (s : Settings) (name : String) :
    Naming.fileStem name ++ s.extension ≠ ".." := by
  have hextension : 2 < s.extension.length := by
    rcases extension_cases s with h | h <;> rw [h] <;> decide
  intro h
  have hlength := congrArg String.length h
  rw [String.length_append, show "..".length = 2 from rfl] at hlength
  omega

/-- The file of a component stands right in the directory. -/
theorem standsIn_of_written {file : String} {content : ByteArray} {place : Place}
    (hslash : '/' ∉ file.toList) (habove : file ≠ "..")
    (h : FileTree.Written t t' ((Path.ofString directory).child file) content place) :
    FileTree.StandsIn t t' (.ofString directory) file content := by
  obtain ⟨above, hlocate, hfind, rfl⟩ :=
    FileTree.locate_child (FileTree.isAnchor_start_ofString directory) habove h.located
  exact ⟨hslash, above, hlocate, hfind, h⟩

theorem standsIn_of_save
    (h : save t ((Path.ofString directory).child (Naming.fileStem name ++ s.extension)) code =
      .ok t') :
    FileTree.StandsIn t t' (.ofString directory) (Naming.fileStem name ++ s.extension)
      code.toUTF8 := by
  obtain ⟨place, hwritten⟩ := written_of_save h
  exact standsIn_of_written (slash_not_mem_file s name) (file_ne_above s name) hwritten

end

section

variable [Machine] [Template.Renderer]

/-- A component has been generated, and its code written to the file that its name gives. -/
def WritesNamed (w : Surroundings) (a : GenerateArguments) (directory : String) (o : Outcome) :
    Prop :=
  ∃ es s d g r name, Generates w a es s d g r ∧ d.component.name = .str name ∧
    FileTree.StandsIn w.files o.files (.ofString directory) (Naming.fileStem name ++ s.extension)
      r.code.toUTF8

variable [Console]

theorem writesNamed_of_run {w : Surroundings} {line : List String} {i : Invocation}
    {a : GenerateArguments} {directory : String} {o : Outcome}
    (hline : Invocation.ofLine line = .ok i) (htask : i.task = some (.generate a))
    (hdirectory : a.outputDirectory = some directory) (hfilled : directory ≠ "")
    (h : run w line = .ok o) (hexit : o.exit.code ≠ 1) : WritesNamed w a directory o := by
  rcases run_eq_ok hline htask h with ⟨hfailed, -⟩ | ⟨code, hdelivers⟩
  · exact absurd hfailed hexit
  · obtain ⟨es, s, d, g, r, path, hgenerates, rfl, hdestined, hemitted, -⟩ := hdelivers
    generalize hname : d.component.name = value at hdestined
    cases hdestined with
    | @directory directory' name hdirectory' _ hvalue =>
      cases hdirectory.symm.trans hdirectory'
      cases hemitted with
      | file _ hwritten =>
        exact ⟨es, s, d, g, r, name, hgenerates, hname.trans hvalue,
          standsIn_of_written (slash_not_mem_file s name) (file_ne_above s name) hwritten⟩
    | file hempty => exact absurd (hempty directory hdirectory) hfilled
    | standardOutput hempty => exact absurd (hempty directory hdirectory) hfilled

/-- Each name has a stem, which is the stem of itself, and the file that is named by a stem is
written right into the given directory. -/
theorem stem_stands_in_directory :
    (∀ name, Naming.IsStem name (Naming.fileStem name) ∧
      Naming.fileStem (Naming.fileStem name) = Naming.fileStem name ∧
      ∀ (s : Settings) directory files code files',
        save files ((Path.ofString directory).child (Naming.fileStem name ++ s.extension)) code =
          .ok files' →
        FileTree.StandsIn files files' (.ofString directory) (Naming.fileStem name ++ s.extension)
          code.toUTF8) ∧
    ∀ w line i a directory o, Invocation.ofLine line = .ok i → i.task = some (.generate a) →
      a.outputDirectory = some directory → directory ≠ "" → run w line = .ok o →
      o.exit.code ≠ 1 → WritesNamed w a directory o :=
  ⟨fun name => ⟨Naming.isStem_fileStem name, Naming.fileStem_fileStem name,
      fun _ _ _ _ _ => standsIn_of_save⟩,
    fun _ _ _ _ _ _ => writesNamed_of_run⟩

/-- Code that comes without warnings reaches a file. -/
theorem exists_run_of_save {w : Surroundings} {line : List String} {a : GenerateArguments}
    {loaded : Loading.Loaded} {d : Document} {s : Settings} {warnings : List String} {r : Report}
    {level : Log.Level} {p : Path} {files : FileTree} {notice : String}
    (hline : Invocation.ofLine line = .ok ⟨some level, some (.generate a)⟩)
    (hloaded : (document w a).result = .ok loaded)
    (hs : checkedSettings w.files a = .ok (s, warnings))
    (hd : Document.ofValue loaded.description = .ok d)
    (hreport : ((Generator.ofSettings s).report w.files d).1 = .ok (.ok r))
    (hwarnings : r.warnings = []) (htarget : target a s r.metadata = .ok (some p))
    (hsave : save w.files p r.code = .ok files)
    (hnotice : Console.display ("[green]✓[/green] Wrote " ++ p.text) = .ok notice)
    (hverbose : a.verbose = false) {blank : String} (hblank : Console.display "" = .ok blank) :
    ∃ o, run w line = .ok o ∧ o.exit = .done := by
  obtain ⟨o, hkeeps, hgenerate⟩ := exists_generate_eq hloaded hs hd hreport
  have hfiles : o.files = w.files := hkeeps.files
  rw [deliver_eq, hwarnings, Outcome.warned_nil _ hblank, Result.ok_bind,
    Outcome.after_ok _ htarget] at hgenerate
  dsimp only at hgenerate
  rw [hfiles, Outcome.after_ok _ hsave, Outcome.noticed, hnotice, Result.ok_bind, pure_bind,
    finish_of_no_warnings _ s hwarnings hverbose] at hgenerate
  exact exists_run_of_generate hline hgenerate

end

section

open Componentry.Program

/-- A component with a name that reads as a path, on standard input. -/
def pathLikeName : Surroundings :=
  ⟨.empty, "\x7b\"name\":\"../UserCard\"\x7d", fun _ => .timedOut⟩

def intoDirectory : GenerateArguments :=
  { source := some .stdin, destination := some (.directory "out") }

theorem stem_stands_in_directory_out : Naming.IsStem "../UserCard" "user-card" ∧
    ∃ o, run pathLikeName ["generate", "--stdin", "--output-dir", "out"] = .ok o ∧
      WritesNamed pathLikeName intoDirectory "out" o := by
  have hsettings : ∃ s, checkedSettings pathLikeName.files intoDirectory = .ok (s, []) ∧
      s = Settings.default := by
    refine ⟨_, rfl, congrArg Settings.mk (funext fun k => ?_)⟩
    cases k <;> rfl
  obtain ⟨s, hs, rfl⟩ := hsettings
  obtain ⟨d, hd⟩ : ∃ d, Document.ofValue (.map [(.str "name", .str "../UserCard")]) = .ok d :=
    ⟨_, rfl⟩
  have hreport : ∃ r, ((Generator.ofSettings Settings.default).report .empty d).1 = .ok (.ok r) ∧
      r.warnings = [] ∧ target intoDirectory Settings.default r.metadata =
        .ok (some ⟨"", ["out", "user-card.vue"]⟩) := by
    cases hd
    rw [Generator.report_eq, Generator.generate_framed Program.Template.fillsFrames
      (Settings.usesFrames rfl .empty)]
    exact ⟨_, rfl, rfl, rfl⟩
  obtain ⟨r, hr, hwarnings, htarget⟩ := hreport
  have hline : Invocation.ofLine ["generate", "--stdin", "--output-dir", "out"] =
      .ok ⟨some .warning, some (.generate intoDirectory)⟩ := rfl
  have hloaded : (document pathLikeName intoDirectory).result =
      .ok ⟨"<stdin>", .map [(.str "name", .str "../UserCard")]⟩ := rfl
  have hsave : ∃ files, save pathLikeName.files ⟨"", ["out", "user-card.vue"]⟩ r.code =
      .ok files := ⟨_, rfl⟩
  obtain ⟨files, hsave⟩ := hsave
  have hnotice : ∃ notice, Console.display ("[green]✓[/green] Wrote " ++
      Path.text ⟨"", ["out", "user-card.vue"]⟩) = .ok notice := by
    have hshown : (Console.display "[green]✓[/green] Wrote out/user-card.vue").toBool = true := by
      decide +kernel
    cases hnotice : Console.display "[green]✓[/green] Wrote out/user-card.vue" with
    | ok notice => exact ⟨notice, hnotice⟩
    | error f =>
      rw [hnotice] at hshown
      cases hshown
  obtain ⟨notice, hnotice⟩ := hnotice
  obtain ⟨o, ho, hdone⟩ :=
    exists_run_of_save hline hloaded hs hd hr hwarnings htarget hsave hnotice rfl
      (show Console.display "" = .ok "" from rfl)
  have hexit : o.exit.code ≠ 1 := by
    rw [hdone]
    decide
  exact ⟨(stem_stands_in_directory.1 "../UserCard").1, o, ho,
    stem_stands_in_directory.2 _ _ _ _ _ _ hline rfl rfl (by decide) ho hexit⟩

end

end Command

end Componentry
