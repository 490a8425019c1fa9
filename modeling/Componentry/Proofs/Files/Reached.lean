import Componentry.Proofs.Files.Written
import Componentry.Proofs.Text.Pieces

/-!
# What a path leads to

A path leads to an entry of a tree or to nothing, or it is not even looked for because it is too
long, or a name on the way is. The file that it leads to can be read, and what is read is a text
just if the content of the file is one in UTF-8.
-/

namespace Componentry

namespace Path

/-- A text without slashes is a path of one name. -/
theorem parts_ofString_name {s : String} (hslash : '/' ∉ s.toList) (hne : s ≠ "")
    (hdot : s ≠ ".") : (ofString s).parts = [s] := by
  rw [ofString, Text.splitAt_of_not_mem hslash]
  simp [String.ofList_toList, hne, hdot]

/-- A path of as many names, each of one letter. -/
def deep (names : Nat) : String := Text.repeated "a/" names

theorem deep_ne_empty {names : Nat} (h : 0 < names) : deep names ≠ "" := by
  intro hempty
  have hsize : (deep names).utf8ByteSize = 2 * names := Text.utf8ByteSize_repeated "a/" names
  rw [hempty, String.utf8ByteSize_empty] at hsize
  omega

theorem parts_ofString_deep (names : Nat) :
    (ofString (deep names)).parts = List.replicate names "a" := by
  induction names with
  | zero => rfl
  | succ n ih =>
    have hsplit : Text.splitAt '/' (deep (n + 1)).toList =
        ['a'] :: Text.splitAt '/' (deep n).toList := by
      rw [deep, Text.repeated, String.toList_append]
      exact Text.splitAt_append ['a'] _
    rw [ofString, hsplit, List.replicate_succ, ← ih]
    rfl

theorem utf8ByteSize_deep (names : Nat) :
    2 * names ≤ (ofString (deep names)).text.utf8ByteSize + 1 := by
  have hjoin (n : Nat) :
      2 * (n + 1) ≤ (Text.join "/" (List.replicate (n + 1) "a")).utf8ByteSize + 1 := by
    induction n with
    | zero => decide
    | succ n ih =>
      rw [List.replicate_succ, List.replicate_succ, Text.join, ← List.replicate_succ,
        String.utf8ByteSize_append, String.utf8ByteSize_append]
      · have hletter : "a".utf8ByteSize = 1 := rfl
        have hslash : "/".utf8ByteSize = 1 := rfl
        omega
      · nofun
  cases names with
  | zero => exact Nat.zero_le _
  | succ n =>
    have hsize := hjoin n
    rw [text, parts_ofString_deep, if_neg (by simp), String.utf8ByteSize_append]
    omega

end Path

namespace FileTree

/-- An entry stands where a path leads. -/
def Reaches (t : FileTree) (p : Path) (e : Entry) : Prop :=
  p.holdsNul = false ∧ ∃ place, t.locate p = .ok place ∧ t.find? place = some e

/-- A path is not looked for, since it is too long or a name that is too long is met on the way. -/
def Refuses (t : FileTree) (p : Path) : Prop :=
  p.holdsNul = false ∧ t.locate p = .error .nameTooLong

/-- A content is a text, which is read with every line ended by a line feed. -/
def HoldsText (content : ByteArray) (text : List Char) : Prop :=
  ∃ s : String, content = s.toUTF8 ∧ text = Text.universalNewlines s.toList

variable {t : FileTree} {p : Path}

theorem lookup_of_reaches {e : Entry} (h : t.Reaches p e) : t.lookup p = .ok (some e) := by
  obtain ⟨hnul, place, hplace, hfind⟩ := h
  rw [lookup, hnul, hplace]
  exact congrArg Except.ok hfind

theorem lookup_of_refuses (h : t.Refuses p) : t.lookup p = Result.fault .refused := by
  obtain ⟨hnul, hplace⟩ := h
  rw [lookup, hnul, hplace]
  rfl

/-- A path is not looked for, or what it leads to is found, or there is nothing to be found. -/
theorem lookup_cases (t : FileTree) (p : Path) :
    t.Refuses p ∨ ¬ t.Refuses p ∧ ((∃ e, t.Reaches p e) ∨
      (∀ e, ¬ t.Reaches p e) ∧ t.lookup p = .ok none) := by
  cases hnul : p.holdsNul with
  | true =>
    have hno : ¬ p.holdsNul = false := fun h => nomatch hnul.symm.trans h
    refine .inr ⟨fun h => hno h.1, .inr ⟨fun e h => hno h.1, ?_⟩⟩
    rw [lookup, hnul]
    rfl
  | false =>
    cases hplace : t.locate p with
    | error e =>
      have hnothing : ∀ e, ¬ t.Reaches p e := by
        rintro e' ⟨-, place, hplace', -⟩
        cases hplace.symm.trans hplace'
      by_cases he : e = .nameTooLong
      · exact .inl ⟨hnul, he ▸ hplace⟩
      · refine .inr ⟨fun h => he (Except.error.inj (hplace.symm.trans h.2)),
          .inr ⟨hnothing, ?_⟩⟩
        rw [lookup, hnul, hplace]
        cases e with
        | nameTooLong => exact absurd rfl he
        | _ => rfl
    | ok place =>
      refine .inr ⟨fun h => (nomatch hplace.symm.trans h.2), ?_⟩
      cases hfind : t.find? place with
      | some e => exact .inl ⟨e, hnul, place, hplace, hfind⟩
      | none =>
        refine .inr ⟨?_, ?_⟩
        · rintro e ⟨-, place', hplace', hfind'⟩
          cases hplace.symm.trans hplace'
          cases hfind.symm.trans hfind'
        · rw [lookup, hnul, hplace]
          exact congrArg Except.ok hfind

theorem refuses_of_long (hnul : p.holdsNul = false) (hlong : pathLimit ≤ p.text.utf8ByteSize) :
    t.Refuses p :=
  ⟨hnul, if_pos hlong⟩

/-- A path is not looked for if its names are too many, however short they are. -/
theorem refuses_deep {names : Nat} (hmany : pathLimit < 2 * names) :
    t.Refuses (.ofString (Path.deep names)) := by
  have hsize := Path.utf8ByteSize_deep names
  refine refuses_of_long ?_ (by omega)
  rw [Path.holdsNul, Path.parts_ofString_deep, List.any_eq_false]
  intro s hs
  rw [List.eq_of_mem_replicate hs]
  decide

/-- A path is not looked for if its only name is too long. -/
theorem refuses_longName {s : String} (hslash : '/' ∉ s.toList) (hnul : '\x00' ∉ s.toList)
    (hlong : nameLimit < s.utf8ByteSize) : t.Refuses (.ofString s) := by
  have hother {w : String} (hw : w.utf8ByteSize ≤ nameLimit) : s ≠ w := by
    rintro rfl
    omega
  have hparts := Path.parts_ofString_name hslash (hother (by decide)) (hother (by decide))
  refine ⟨by simp [Path.holdsNul, hparts, hnul], ?_⟩
  unfold locate
  split_ifs
  · rfl
  · rw [hparts]
    change step _ s = _
    rw [step, if_neg (hother (by decide)), if_pos hlong]

theorem Reaches.unique {e e' : Entry} (h : t.Reaches p e) (h' : t.Reaches p e') : e = e' :=
  Option.some.inj (Except.ok.inj ((lookup_of_reaches h).symm.trans (lookup_of_reaches h')))

theorem Reaches.not_refuses {e : Entry} (h : t.Reaches p e) : ¬ t.Refuses p := fun hrefuses =>
  nomatch (lookup_of_reaches h).symm.trans (lookup_of_refuses hrefuses)

theorem has_of_reaches {e : Entry} (h : t.Reaches p e) : t.has p = .ok true := by
  rw [has, lookup_of_reaches h]
  rfl

theorem has_of_refuses (h : t.Refuses p) : t.has p = Result.fault .refused := by
  rw [has, lookup_of_refuses h]
  rfl

theorem exists_hasDirectory_iff : (∃ there, t.hasDirectory p = .ok there) ↔ ¬ t.Refuses p := by
  rcases t.lookup_cases p with hrefuses | ⟨hfound, ⟨e, he⟩ | ⟨-, hnothing⟩⟩
  · rw [hasDirectory, lookup_of_refuses hrefuses]
    exact ⟨nofun, fun h => absurd hrefuses h⟩
  · rw [hasDirectory, lookup_of_reaches he]
    exact ⟨fun _ => hfound, fun _ => ⟨_, rfl⟩⟩
  · rw [hasDirectory, hnothing]
    exact ⟨fun _ => hfound, fun _ => ⟨_, rfl⟩⟩

theorem enter_append (t : FileTree) (here : Place) (names names' : List String) :
    t.enter here (names ++ names') = t.enter here names >>= (t.enter · names') := by
  induction names generalizing here with
  | nil => rfl
  | cons name names ih =>
    rw [List.cons_append, enter, enter]
    cases step here name with
    | error e => rfl
    | ok next =>
      rw [Result.ok_bind, Result.ok_bind]
      cases t.find? next with
      | none => rfl
      | some e =>
        cases e with
        | file content => rfl
        | directory => exact ih next

theorem isAnchor_start_ofString (s : String) : (start (.ofString s)).isAnchor = true := by
  have hroot : (Path.ofString s).root = "" ∨ (Path.ofString s).root = "/" ∨
      (Path.ofString s).root = "//" := by
    rw [Path.ofString]
    unfold Path.rootOf
    split <;> simp
  unfold start
  rcases hroot with h | h | h <;> rw [h] <;> rfl

/-- What all names of a path lead into is a directory, which the path leads to. -/
theorem locate_of_enter {place : Place} (hshort : p.text.utf8ByteSize < pathLimit)
    (hstart : (start p).isAnchor = true) (h : t.enter (start p) p.parts = .ok place) :
    t.locate p = .ok place ∧ t.find? place = some .directory := by
  rw [locate, if_neg (Nat.not_le_of_lt hshort)]
  rcases List.eq_nil_or_concat p.parts with hnil | ⟨names, last, hparts⟩
  · rw [hnil] at h
    cases h
    exact ⟨by rw [hnil]; rfl, if_pos hstart⟩
  · rw [List.concat_eq_append] at hparts
    rw [hparts, enter_append] at h
    obtain ⟨above, habove, h⟩ := Result.bind_eq_ok.mp h
    obtain ⟨next, hnext, h⟩ := Result.bind_eq_ok.mp h
    rw [hparts, List.getLast?_concat, List.dropLast_concat]
    dsimp only
    rw [habove, Result.ok_bind, hnext]
    cases hfind : t.find? next with
    | none =>
      rw [hfind] at h
      cases h
    | some e =>
      rw [hfind] at h
      cases e with
      | file content => cases h
      | directory =>
        cases h
        exact ⟨rfl, hfind⟩

theorem utf8ByteSize_join_le (sep s : String) (ss : List String) :
    (Text.join sep ss).utf8ByteSize ≤ (Text.join sep (ss ++ [s])).utf8ByteSize := by
  fun_induction Text.join sep ss with
  | case1 => exact Nat.zero_le _
  | case2 t =>
    rw [List.singleton_append, Text.join, Text.join, String.utf8ByteSize_append,
      String.utf8ByteSize_append]
    · omega
    · nofun
  | case3 t rest hrest ih =>
    have hcons : Text.join sep (t :: rest ++ [s]) = t ++ sep ++ Text.join sep (rest ++ [s]) := by
      rw [List.cons_append, Text.join]
      simp
    simp only [hcons, String.utf8ByteSize_append]
    omega

theorem text_lt_of_child {name : String} (h : (p.child name).text.utf8ByteSize < pathLimit) :
    p.text.utf8ByteSize < pathLimit := by
  have hchild : (p.child name).text = p.root ++ Text.join "/" (p.parts ++ [name]) := by
    simp [Path.text, Path.child]
  have hle := utf8ByteSize_join_le "/" name p.parts
  rw [hchild, String.utf8ByteSize_append] at h
  unfold Path.text
  split_ifs
  · decide
  · rw [String.utf8ByteSize_append]
    omega

/-- A name in a directory leads to a place right below the one of the directory. -/
theorem locate_child {name : String} {place : Place} (hstart : (start p).isAnchor = true)
    (hname : name ≠ "..") (h : t.locate (p.child name) = .ok place) :
    ∃ above, t.locate p = .ok above ∧ t.find? above = some .directory ∧
      place = above ++ [name] := by
  rw [locate] at h
  split_ifs at h with hlong
  rw [Path.child, List.getLast?_concat, List.dropLast_concat] at h
  obtain ⟨above, habove, h⟩ := Result.bind_eq_ok.mp h
  obtain ⟨hlocate, hfind⟩ :=
    locate_of_enter (text_lt_of_child (Nat.lt_of_not_le hlong)) hstart habove
  refine ⟨above, hlocate, hfind, ?_⟩
  rw [step, if_neg hname] at h
  split_ifs at h
  cases h
  rfl

theorem decode_eq_ok {content : ByteArray} {s : String} :
    Text.decode content = .ok s ↔ content = s.toUTF8 := by
  constructor
  · intro h
    unfold Text.decode String.fromUTF8? at h
    split at h
    next hs =>
      cases h
      split_ifs at hs
      exact Option.some.inj hs ▸ rfl
    next => cases h
  · rintro rfl
    exact decode_toUTF8 s

theorem HoldsText.unique {content : ByteArray} {text text' : List Char}
    (h : HoldsText content text) (h' : HoldsText content text') : text = text' := by
  obtain ⟨s, hs, rfl⟩ := h
  obtain ⟨s', hs', rfl⟩ := h'
  rw [String.toByteArray_inj.mp (hs.symm.trans hs')]

section

variable {refuse : SystemError → Failure} {content : ByteArray}

theorem read_of_reaches (h : t.Reaches p (.file content)) : t.read refuse p = .ok content := by
  obtain ⟨hnul, place, hplace, hfind⟩ := h
  rw [read, hnul, hplace]
  dsimp only
  rw [hfind]
  rfl

theorem readText_of_directory (h : t.Reaches p .directory) :
    t.readText refuse p = .error (refuse .isADirectory) := by
  obtain ⟨hnul, place, hplace, hfind⟩ := h
  rw [readText, read, hnul, hplace]
  dsimp only
  rw [hfind]
  rfl

theorem readText_of_holdsText (h : t.Reaches p (.file content)) {text : List Char}
    (htext : HoldsText content text) : t.readText refuse p = .ok text := by
  obtain ⟨s, hs, rfl⟩ := htext
  rw [readText, read_of_reaches h, Result.ok_bind, decode_eq_ok.mpr hs]
  rfl

theorem readText_of_no_text (h : t.Reaches p (.file content))
    (hno : ∀ text, ¬ HoldsText content text) :
    t.readText refuse p = Result.fault .undecodable := by
  rw [readText, read_of_reaches h, Result.ok_bind]
  cases hdecode : Text.decode content with
  | ok s => exact absurd ⟨s, decode_eq_ok.mp hdecode, rfl⟩ (hno _)
  | error e => rfl

end

end FileTree

end Componentry
