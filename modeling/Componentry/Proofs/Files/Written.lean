import Componentry.Files.Tree
import Componentry.Proofs.Result
import Mathlib.Tactic.SplitIfs

/-!
# What writing changes

Writing a file changes what stands at one place, and making directories changes places at which
nothing stood. Neither takes a directory away, so every path that led somewhere still leads there,
and a file that has been written can be read back.
-/

namespace Componentry

namespace FileTree

theorem lookup_cons_eq (es : List (Place × Entry)) (r q : Place) (e : Entry) :
    ((r, e) :: es).lookup q = if q = r then some e else es.lookup q := by
  rw [List.lookup_cons]
  split_ifs with h
  · rw [h, beq_self_eq_true]
  · rw [beq_false_of_ne h]

theorem lookup_replaced (es : List (Place × Entry)) (p q : Place) (e : Entry) :
    (es.map fun x => if x.1 == p then (p, e) else x).lookup q =
      if q = p ∧ (es.any (·.1 == p)) then some e else es.lookup q := by
  induction es with
  | nil => simp
  | cons x es ih =>
    obtain ⟨r, f⟩ := x
    rw [List.map_cons, List.any_cons, lookup_cons_eq]
    by_cases hr : r = p
    · rw [if_pos (beq_iff_eq.mpr hr), lookup_cons_eq, ih, hr]
      by_cases hq : q = p <;> simp [hq]
    · rw [if_neg fun h => hr (beq_iff_eq.mp h), lookup_cons_eq, ih, beq_false_of_ne hr,
        Bool.false_or]
      split_ifs with hqr hq
      · exact absurd (hqr.symm.trans hq.1) hr
      all_goals rfl

theorem lookup_eq_none_of_any {es : List (Place × Entry)} {p : Place}
    (h : ¬ es.any (·.1 == p)) : es.lookup p = none := by
  induction es with
  | nil => rfl
  | cons x es ih =>
    obtain ⟨r, f⟩ := x
    rw [List.any_cons, Bool.or_eq_true, not_or] at h
    rw [lookup_cons_eq, if_neg fun heq => h.1 (beq_iff_eq.mpr heq.symm), ih h.2]

/-- An entry that is put at a place is what stands there; the other places stay as they are. -/
theorem find?_put (t : FileTree) {p : Place} (hp : p.isAnchor = false) (e : Entry) (q : Place) :
    (t.put p e).find? q = if q = p then some e else t.find? q := by
  have hlookup : (t.put p e).entries.lookup q = if q = p then some e else t.entries.lookup q := by
    unfold put
    by_cases hany : t.entries.any (·.1 == p)
    · rw [if_pos hany, lookup_replaced]
      simp only [hany, and_true]
    · rw [if_neg hany, List.lookup_append, lookup_cons_eq]
      by_cases hq : q = p
      · rw [hq, lookup_eq_none_of_any hany, if_pos rfl, if_pos rfl]
        rfl
      · rw [if_neg hq, if_neg hq]
        exact Option.or_none
  unfold find?
  rw [hlookup]
  by_cases hq : q = p
  · rw [hq, hp, if_pos rfl, if_pos rfl]
    rfl
  · rw [if_neg hq, if_neg hq]

theorem isAnchor_of_find?_ne {t : FileTree} {p : Place} (h : t.find? p ≠ some .directory) :
    p.isAnchor = false :=
  Bool.eq_false_iff.mpr fun hanchor => h (if_pos hanchor)

section

variable {t t' : FileTree}

theorem enter_of_directories (h : ∀ q, t.find? q = some .directory → t'.find? q = some .directory)
    {names : List String} {here place : Place} (hp : t.enter here names = .ok place) :
    t'.enter here names = .ok place := by
  induction names generalizing here with
  | nil => exact hp
  | cons name names ih =>
    rw [enter] at hp ⊢
    obtain ⟨next, hnext, hp⟩ := Result.bind_eq_ok.mp hp
    rw [hnext, Result.ok_bind]
    cases hfind : t.find? next with
    | none =>
      rw [hfind] at hp
      cases hp
    | some e =>
      cases e with
      | file content =>
        rw [hfind] at hp
        cases hp
      | directory =>
        rw [hfind] at hp
        rw [h next hfind]
        exact ih hp

/-- A path still leads to its place as long as no directory is taken away. -/
theorem locate_of_directories (h : ∀ q, t.find? q = some .directory → t'.find? q = some .directory)
    {p : Path} {place : Place} (hp : t.locate p = .ok place) : t'.locate p = .ok place := by
  unfold locate at hp ⊢
  split_ifs at hp ⊢ with hlong
  cases hlast : p.parts.getLast? with
  | none =>
    rw [hlast] at hp
    exact hp
  | some last =>
    rw [hlast] at hp
    obtain ⟨above, habove, hp⟩ := Result.bind_eq_ok.mp hp
    dsimp only
    rw [enter_of_directories h habove]
    exact hp

end

/-- Directories stand where nothing stood, and all else is as it was. -/
def Extends (t t' : FileTree) : Prop :=
  ∀ q, t'.find? q = t.find? q ∨ (t.find? q = none ∧ t'.find? q = some .directory)

namespace Extends

variable {t t' t'' : FileTree} {p : Path}

theorem refl (t : FileTree) : Extends t t := fun _ => .inl rfl

theorem trans (h : Extends t t') (h' : Extends t' t'') : Extends t t'' := by
  intro q
  rcases h' q with hq | ⟨hnone, hmade⟩
  · rw [hq]
    exact h q
  · rcases h q with hq | ⟨-, hq⟩
    · exact .inr ⟨hq ▸ hnone, hmade⟩
    · rw [hq] at hnone
      cases hnone

theorem of_makeHere (h : t.makeHere p = .ok t') : Extends t t' := by
  obtain ⟨place, -, h⟩ := Result.bind_eq_ok.mp h
  cases hfind : t.find? place with
  | none =>
    rw [hfind] at h
    cases h
    have hfree : t.find? place ≠ some .directory := fun heq => nomatch hfind.symm.trans heq
    intro q
    rw [t.find?_put (isAnchor_of_find?_ne hfree)]
    split_ifs with hq
    · exact .inr ⟨hq ▸ hfind, rfl⟩
    · exact .inl rfl
  | some e =>
    rw [hfind] at h
    cases e with
    | file content => cases h
    | directory => exact Except.ok.inj h ▸ refl t

theorem of_makeAll {missing : Nat} (h : t.makeAll p missing = .ok t') : Extends t t' := by
  induction missing generalizing t t' p with
  | zero => exact of_makeHere (Result.of_mapError h)
  | succ missing ih =>
    rw [makeAll] at h
    split at h
    · obtain ⟨above, habove, h⟩ := Result.bind_eq_ok.mp h
      exact (ih habove).trans (of_makeHere (Result.of_mapError h))
    · exact of_makeHere (Result.of_mapError h)

theorem of_makeDirectory {refuse : SystemError → Path → Failure}
    (h : t.makeDirectory refuse p = .ok t') : Extends t t' := by
  unfold makeDirectory at h
  split_ifs at h
  · cases h
  · exact of_makeAll (Result.of_mapError h)

end Extends

theorem write_eq_ok {t t' : FileTree} {refuse : SystemError → Failure} {p : Path}
    {content : ByteArray} : t.write refuse p content = .ok t' ↔
      p.holdsNul = false ∧ ∃ place, t.locate p = .ok place ∧
        t.find? place ≠ some .directory ∧ t' = t.put place (.file content) := by
  unfold write
  cases p.holdsNul with
  | true => simp [Result.fault]
  | false =>
    cases t.locate p with
    | error e => simp
    | ok place =>
      by_cases h : t.find? place = some .directory <;> simp [h, eq_comm (a := t')]

/-- Whether a file can be written does not depend on its content. -/
theorem exists_write {t t' : FileTree} {refuse : SystemError → Failure} {p : Path}
    {content : ByteArray} (h : t.write refuse p content = .ok t') (content' : ByteArray) :
    ∃ t'', t.write refuse p content' = .ok t'' := by
  obtain ⟨hnul, place, hplace, hfree, -⟩ := write_eq_ok.mp h
  exact ⟨_, write_eq_ok.mpr ⟨hnul, place, hplace, hfree, rfl⟩⟩

/-- A path leads to a file with some content, and at the other places is what was there before or a
new directory. -/
structure Written (t t' : FileTree) (p : Path) (content : ByteArray) (place : Place) : Prop where
  located : t'.locate p = .ok place
  readable : ∀ refuse, t'.read refuse p = .ok content
  others : ∀ q, q ≠ place → t'.find? q = t.find? q ∨
    (t.find? q = none ∧ t'.find? q = some .directory)

theorem written_of_write {t t' t'' : FileTree} {refuse : SystemError → Failure} {p : Path}
    {content : ByteArray} (hmade : Extends t t') (h : t'.write refuse p content = .ok t'') :
    ∃ place, Written t t'' p content place := by
  obtain ⟨hnul, place, hplace, hfree, rfl⟩ := write_eq_ok.mp h
  have hput := t'.find?_put (isAnchor_of_find?_ne hfree) (.file content)
  have hlocated : (t'.put place (.file content)).locate p = .ok place := by
    refine locate_of_directories (fun q hq => ?_) hplace
    rw [hput, if_neg fun heq : q = place => hfree (heq ▸ hq)]
    exact hq
  refine ⟨place, hlocated, fun refuse => ?_, fun q hq => ?_⟩
  · rw [read, hnul, hlocated]
    dsimp only
    rw [hput, if_pos rfl]
    rfl
  · rw [hput, if_neg hq]
    exact hmade q

section

variable {t : FileTree} {refuse : SystemError → Failure} {p : Path} {content : ByteArray}

theorem lookup_of_read (h : t.read refuse p = .ok content) :
    t.lookup p = .ok (some (.file content)) := by
  unfold read at h
  unfold lookup
  cases hnul : p.holdsNul with
  | true =>
    rw [hnul] at h
    cases h
  | false =>
    rw [hnul] at h
    cases hplace : t.locate p with
    | error e =>
      rw [hplace] at h
      cases h
    | ok place =>
      rw [hplace] at h
      dsimp only at h ⊢
      cases hfind : t.find? place with
      | none =>
        rw [hfind] at h
        cases h
      | some e =>
        rw [hfind] at h
        cases e with
        | directory => cases h
        | file content =>
          cases h
          rfl

theorem has_of_read (h : t.read refuse p = .ok content) : t.has p = .ok true := by
  rw [has, lookup_of_read h]
  rfl

theorem decode_toUTF8 (s : String) : Text.decode s.toUTF8 = .ok s := by
  have hvalid : s.toUTF8.IsValidUTF8 := s.isValidUTF8
  unfold Text.decode String.fromUTF8?
  rw [dif_pos hvalid]
  rfl

theorem universalNewlines_eq {cs : List Char} (h : '\r' ∉ cs) :
    Text.universalNewlines cs = cs := by
  induction cs with
  | nil => rfl
  | cons c cs ih =>
    obtain ⟨hc, hcs⟩ := List.ne_and_not_mem_of_not_mem_cons h
    rw [Text.universalNewlines, ih hcs]
    · exact fun _ heq _ => hc heq.symm
    · exact fun heq => hc heq.symm

/-- A text without carriage returns is read as it was written. -/
theorem readText_of_read {text : String} (h : t.read refuse p = .ok text.toUTF8)
    (hreturn : '\r' ∉ text.toList) : t.readText refuse p = .ok text.toList := by
  rw [readText, h, Result.ok_bind, decode_toUTF8]
  exact congrArg Except.ok (universalNewlines_eq hreturn)

end

end FileTree

end Componentry
