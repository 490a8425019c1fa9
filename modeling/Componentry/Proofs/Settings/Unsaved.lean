import Componentry.Proofs.Files.Written
import Componentry.Proofs.Json.Complete
import Componentry.Proofs.Value.Entries
import Componentry.Settings.Storage

/-!
# Settings that cannot be saved

The file that settings are saved to is opened, and by that emptied, before it is known whether they
can be written. Where they cannot, the file is left with what had been written by then. So a failed
save leaves a path as it was just if nothing can be opened there, or if it held just that.
-/

namespace Componentry

namespace FileTree

variable {t t' : FileTree} {refuse : SystemError → Failure} {p : Path} {content : ByteArray}

/-- A file can be opened for writing where a path leads. -/
def Opens (t : FileTree) (p : Path) : Prop :=
  p.holdsNul = false ∧ ∃ place, t.locate p = .ok place ∧ t.find? place ≠ some .directory

theorem exists_write_iff : (∃ t', t.write refuse p content = .ok t') ↔ t.Opens p := by
  constructor
  · rintro ⟨t', h⟩
    obtain ⟨hnul, place, hplace, hfree, -⟩ := write_eq_ok.mp h
    exact ⟨hnul, place, hplace, hfree⟩
  · rintro ⟨hnul, place, hplace, hfree⟩
    exact ⟨_, write_eq_ok.mpr ⟨hnul, place, hplace, hfree, rfl⟩⟩

theorem lookup_of_write (h : t.write refuse p content = .ok t') :
    t'.lookup p = .ok (some (.file content)) := by
  obtain ⟨_, hwritten⟩ := written_of_write (.refl t) h
  exact lookup_of_read (hwritten.readable refuse)

end FileTree

namespace Settings

/-- Settings that can be saved: the value of `custom` has entries, and nothing in all entries
together keeps them from being written. -/
def IsSavable (s : Settings) : Prop :=
  ∃ es, s.toEntries = .ok es ∧ (Value.map es).IsWritable .document

/-- What is written of settings: their text, as far as it can be written. -/
def writtenPart (s : Settings) : String :=
  match s.draft with
  | .ok draft => draft.text
  | .error _ => ""

section

variable {s : Settings} {files : FileTree} {p : Path}

theorem complete_of_draft {draft : Json.Draft} (h : s.draft = .ok draft) :
    draft.stop = none ↔ s.IsSavable := by
  obtain ⟨es, hes, h⟩ := Result.bind_eq_ok.mp h
  cases h
  rw [Json.write, Json.stop_writeValue, List.findSome?_eq_none_iff]
  constructor
  · exact fun hwritable => ⟨es, hes, hwritable⟩
  · rintro ⟨es', hes', hwritable⟩
    cases hes.symm.trans hes'
    exact hwritable

theorem not_isSavable_of_draft {f : Failure} (h : s.draft = .error f) : ¬ s.IsSavable := by
  rintro ⟨es, hes, -⟩
  rw [draft, hes] at h
  cases h

/-- Saving is refused and changes nothing, or the path holds what is written of the settings. -/
theorem save_cases (files : FileTree) (s : Settings) (p : Path) :
    (¬ files.Opens p ∧ ∃ f, save files s p = (files, .error f)) ∨
    (files.Opens p ∧ (save files s p).1.lookup p = .ok (some (.file s.writtenPart.toUTF8)) ∧
      ((∃ f, (save files s p).2 = .error f) ↔ ¬ s.IsSavable)) := by
  unfold save writtenPart
  dsimp only
  cases hempty : files.write (fun e => .settings (.unwritable p.text e)) p .empty with
  | error f =>
    refine .inl ⟨fun hopens => ?_, f, rfl⟩
    obtain ⟨emptied, hemptied⟩ := FileTree.exists_write_iff.mpr hopens
    cases hempty.symm.trans hemptied
  | ok emptied =>
    refine .inr ⟨FileTree.exists_write_iff.mp ⟨emptied, hempty⟩, ?_⟩
    cases hdraft : s.draft with
    | error f =>
      exact ⟨FileTree.lookup_of_write hempty, fun _ => not_isSavable_of_draft hdraft,
        fun _ => ⟨f, rfl⟩⟩
    | ok draft =>
      obtain ⟨filled, hfilled⟩ := FileTree.exists_write hempty draft.text.toUTF8
      dsimp only
      rw [hfilled, ← complete_of_draft hdraft]
      refine ⟨FileTree.lookup_of_write hfilled, ?_⟩
      rw [Json.Draft.result]
      cases draft.stop <;> simp [Result.fault, Except.map]

end

/-- A file that holds an empty object. -/
def emptyObjectFiles : FileTree := ⟨[(["s.json"], .file "\x7b\x7d".toUTF8)]⟩

/-- The default settings with a set under `custom`. -/
def paletteSettings : Settings :=
  default.put .custom (.map [(.str "palette", .set [.str "red"])])

end Settings

end Componentry
