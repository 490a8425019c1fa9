import Componentry.Proofs.Json.LineEnds
import Componentry.Proofs.Loading.Ended

/-!
# Loading from a file and from a text

A file is read with every line ended by a line feed, a text as it stands. Both come to the same
description, or are refused for the same reason, whichever characters end the lines of either.
-/

namespace Componentry.Loading

/-- Loading from a path and loading a text from another source have come to the same: only the names
of the sources differ, and the place of a complaint. -/
inductive Agree (path source : String) : Result Loaded → Result Loaded → Prop
  | loaded (es : Entries Value) :
    Agree path source (.ok ⟨path, .map es⟩) (.ok ⟨source, .map es⟩)
  | noObject : Agree path source (.error (.loading (.notAnObject path)))
    (.error (.loading (.notAnObject source)))
  | invalid {c c' : Json.Complaint} (hproblem : c.problem = c'.problem) :
    Agree path source (.error (.loading (.invalidFile path c)))
      (.error (.loading (.invalidText source c')))
  | longNumber : Agree path source (Result.fault .malformed) (Result.fault .malformed)

theorem agree_read (path source : String) {text text' : List Char}
    (h : Json.outcome id (Json.parse text) = Json.outcome id (Json.parse text')) :
    Agree path source
      (Json.read (fun c => .loading (.invalidFile path c)) text >>= requireObject path)
      (Json.read (fun c => .loading (.invalidText source c)) text' >>= requireObject source) := by
  unfold Json.read
  cases hparse : Json.parse text with
  | ok v =>
    cases hparse' : Json.parse text' with
    | error r => rw [hparse, hparse'] at h; cases h
    | ok v' =>
      rw [hparse, hparse'] at h
      cases h
      cases v with
      | map es => exact .loaded es
      | _ => exact .noObject
  | error r =>
    cases hparse' : Json.parse text' with
    | ok v => rw [hparse, hparse'] at h; cases h
    | error r' =>
      rw [hparse, hparse'] at h
      have hproblem := Except.error.inj h
      cases r <;> cases r' <;> cases hproblem
      · exact .invalid rfl
      · exact .longNumber

theorem ne_empty_of_reaches_file {files : FileTree} {file : String} {content : ByteArray}
    (h : files.Reaches (.ofString file) (.file content)) : file ≠ "" := by
  rintro rfl
  obtain ⟨-, place, hplace, hfind⟩ := h
  cases hplace
  cases hfind

theorem load_file (files : FileTree) (fetch : String → Reply) (limit : Value) {file : String}
    (h : file ≠ "") : load files fetch file "" limit = ofFile files (.ofString file) := by
  rw [load, Bool.eq_false_iff.mpr fun hempty => h (String.isEmpty_iff.mp hempty)]
  rfl

theorem result_ofFile {files : FileTree} {p : Path} {e : Entry} (h : files.Reaches p e) :
    (ofFile files p).result = parseFile files p := by
  rw [ofFile, FileTree.has_of_reaches h]
  exact result_finish _ _ _

/-- A file and a text with the same lines are loaded alike. -/
theorem agree_load (files : FileTree) (fetch : String → Reply) (limit : Value) {file : String}
    (source : String) {written text : String}
    (hfile : files.Reaches (.ofString file) (.file written.toUTF8))
    (hlines : Text.universalNewlines written.toList = Text.universalNewlines text.toList) :
    Agree (Path.ofString file).text source (load files fetch file "" limit).result
      (ofText source text).result := by
  have htext : FileTree.HoldsText written.toUTF8 (Text.universalNewlines text.toList) :=
    ⟨written, rfl, hlines.symm⟩
  rw [load_file files fetch limit (ne_empty_of_reaches_file hfile), result_ofFile hfile, parseFile,
    FileTree.readText_of_holdsText hfile htext, ofText, result_finish]
  exact agree_read _ _ (Json.outcome_parse_universalNewlines text.toList)

/-- A description is loaded from a file and from a text with the same lines, or from neither: either
both give the same description, with its members in the same order, or both end with an error of
loading, unless a number is too long to be read, which stops both. -/
theorem load_eq_ofText (files : FileTree) (fetch : String → Reply) (limit : Value) {file : String}
    (source : String) {written text : String}
    (hfile : files.Reaches (.ofString file) (.file written.toUTF8))
    (hlines : Text.universalNewlines written.toList = Text.universalNewlines text.toList) :
    (∃ es, (load files fetch file "" limit).result =
        .ok ⟨(Path.ofString file).text, .map es⟩ ∧
      (ofText source text).result = .ok ⟨source, .map es⟩) ∨
    (∃ e e', (load files fetch file "" limit).result = .error (.loading e) ∧
      (ofText source text).result = .error (.loading e')) ∨
    (Json.parse text.toList = .error .tooLong ∧
      (load files fetch file "" limit).result = Result.fault .malformed ∧
      (ofText source text).result = Result.fault .malformed) := by
  have h := agree_load files fetch limit source hfile hlines
  have hends :
      Ends (Json.parse text.toList = .error .tooLong) False (ofText source text).result := by
    rw [ofText, result_finish]
    exact ends_read ..
  generalize (load files fetch file "" limit).result = loaded at h
  generalize (ofText source text).result = read at h hends
  cases h with
  | loaded es => exact .inl ⟨es, rfl, rfl⟩
  | noObject => exact .inr (.inl ⟨_, _, rfl, rfl⟩)
  | invalid _ => exact .inr (.inl ⟨_, _, rfl, rfl⟩)
  | longNumber =>
    cases hends with
    | settled _ _ hr => cases hr
    | astray hlong _ => exact .inr (.inr ⟨hlong, rfl, rfl⟩)

def returnedText : String := "\x7b\r\n\"name\": \"Page\",\r\"state\": \x7b\x7d\n\x7d"

def returnedFiles : FileTree := ⟨[(["page.json"], .file returnedText.toUTF8)]⟩

/-- A file whose lines end in all three ways. -/
theorem load_eq_ofText_returned :
    returnedFiles.Reaches (.ofString "page.json") (.file returnedText.toUTF8) ∧
    ∃ es, (load returnedFiles (fun _ => .timedOut) "page.json" "" .null).result =
        .ok ⟨"page.json", .map es⟩ ∧
      (ofText "<stdin>" returnedText).result = .ok ⟨"<stdin>", .map es⟩ := by
  have hfile : returnedFiles.Reaches (.ofString "page.json") (.file returnedText.toUTF8) :=
    ⟨rfl, ["page.json"], rfl, rfl⟩
  have hread : (ofText "<stdin>" returnedText).result = .ok ⟨"<stdin>", .map
      [(.str "name", .str "Page"), (.str "state", .map [])]⟩ := by
    have hrun : returnedText.toList.foldlM Json.step .initial = .ok ⟨32, [], .finished
        (.map [(.str "name", .str "Page"), (.str "state", .map [])])⟩ := by cbv
    rw [ofText, result_finish, parseText, Json.read, Json.parse_of_run hrun]
    rfl
  refine ⟨hfile, ?_⟩
  rcases load_eq_ofText returnedFiles (fun _ => .timedOut) .null "<stdin>" hfile rfl with
    ⟨es, hes⟩ | ⟨e, e', -, he⟩ | ⟨-, -, he⟩
  · exact ⟨es, hes⟩
  · rw [hread] at he
    cases he
  · rw [hread] at he
    cases he

end Componentry.Loading
