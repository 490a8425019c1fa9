import Componentry.Naming.Stem
import Componentry.Proofs.Script.Lexing
import Componentry.Proofs.Text.Occurrences

/-!
# Stems of file names

A stem consists of the letters and digits of a name in lower case, with hyphens where a word ends.
`spread` writes it down character by character: it knows of the letter or digit before a text, and
of whether anything else stands in between, which is all that a hyphen depends on. A stem is the
stem of itself.
-/

namespace Componentry.Naming

section

variable {c d : Char}

theorem isUpper_iff : c.isUpper = true ↔ 65 ≤ c.toNat ∧ c.toNat ≤ 90 := by
  have hupper : c.isUpper = decide (65 ≤ c.val ∧ c.val ≤ 90) := rfl
  simp only [hupper, decide_eq_true_eq, UInt32.le_iff_toNat_le]
  rfl

theorem isLower_iff : c.isLower = true ↔ 97 ≤ c.toNat ∧ c.toNat ≤ 122 := by
  have hlower : c.isLower = (decide (97 ≤ c.val) && decide (c.val ≤ 122)) := rfl
  simp only [hlower, Bool.and_eq_true, decide_eq_true_eq, UInt32.le_iff_toNat_le]
  rfl

/-- A character that words of stems consist of: a lower-case letter or a digit. -/
def isStemChar (c : Char) : Bool := c.isLower || c.isDigit

theorem isStemChar_iff :
    isStemChar c = true ↔ 97 ≤ c.toNat ∧ c.toNat ≤ 122 ∨ 48 ≤ c.toNat ∧ c.toNat ≤ 57 := by
  rw [isStemChar, Bool.or_eq_true, isLower_iff, Script.isDigit_iff]

theorem isWordChar_iff : isWordChar c = true ↔
    (65 ≤ c.toNat ∧ c.toNat ≤ 90 ∨ 97 ≤ c.toNat ∧ c.toNat ≤ 122) ∨
      48 ≤ c.toNat ∧ c.toNat ≤ 57 := by
  rw [isWordChar, Bool.or_eq_true, Script.isAlpha_iff, Script.isDigit_iff]

theorem isStemChar_toLower (h : isWordChar c = true) : isStemChar c.toLower = true := by
  rw [isWordChar_iff] at h
  rw [isStemChar_iff, Text.toNat_toLower]
  split_ifs <;> omega

theorem isWordChar_of_isStemChar (h : isStemChar c = true) : isWordChar c = true := by
  rw [isStemChar_iff] at h
  exact isWordChar_iff.mpr (by omega)

theorem toLower_of_isStemChar (h : isStemChar c = true) : c.toLower = c := by
  rw [isStemChar_iff] at h
  exact Text.toLower_eq_self (by omega)

theorem startsWord_of_isStemChar (h : isStemChar d = true) : startsWord c d = false := by
  have hupper : d.isUpper = false := by
    rw [isStemChar_iff] at h
    exact Bool.eq_false_iff.mpr fun hd => absurd (isUpper_iff.mp hd) (by omega)
  rw [startsWord, hupper, Bool.and_false]

theorem ne_hyphen_of_isStemChar (h : isStemChar c = true) : c ≠ '-' := by
  rintro rfl
  revert h
  decide

end

/-- Words with hyphens between them. -/
def hyphened : List (List Char) → List Char
  | [] => []
  | w :: ws => w ++ ws.flatMap ('-' :: ·)

/-- Words of stems: there is something in each of them, and it consists of lower-case letters and
digits. -/
def AreStemWords (ws : List (List Char)) : Prop := ∀ w ∈ ws, w ≠ [] ∧ ∀ c ∈ w, isStemChar c = true

theorem flatMap_hyphen {ws : List (List Char)} (h : ws ≠ []) :
    ws.flatMap ('-' :: ·) = '-' :: hyphened ws := by
  cases ws with
  | nil => exact absurd rfl h
  | cons w ws => rfl

theorem hyphened_ne_nil {ws : List (List Char)} (hne : ws ≠ []) (hws : AreStemWords ws) :
    hyphened ws ≠ [] := by
  cases ws with
  | nil => exact absurd rfl hne
  | cons w ws => exact List.append_ne_nil_of_left_ne_nil (hws w List.mem_cons_self).1 _

theorem toList_join_hyphen (ss : List String) :
    (Text.join "-" ss).toList = hyphened (ss.map String.toList) := by
  induction ss with
  | nil => rfl
  | cons s ss ih =>
    cases ss with
    | nil => exact (List.append_nil _).symm
    | cons t ss =>
      have hne : (t :: ss).map String.toList ≠ [] := List.cons_ne_nil _ _
      rw [Text.join, String.toList_append, String.toList_append, ih, List.append_assoc]
      · exact congrArg (s.toList ++ ·) (flatMap_hyphen hne).symm
      · exact List.cons_ne_nil _ _

/-- The characters of a stem that a text contributes. `before` is the letter or digit before the
text, if there is one, and whether anything else stands in between. -/
def spread : Option (Char × Bool) → List Char → List Char
  | _, [] => []
  | before, c :: cs =>
    if isWordChar c then
      (if before.any fun p => p.2 || startsWord p.1 c then ['-'] else []) ++
        c.toLower :: spread (some (c, false)) cs
    else spread (before.map fun p => (p.1, true)) cs

/-- The letter or digit before what follows a text, and whether anything else stands in between. -/
def behind : Option (Char × Bool) → List Char → Option (Char × Bool)
  | before, [] => before
  | before, c :: cs =>
    behind (if isWordChar c then some (c, false) else before.map fun p => (p.1, true)) cs

/-- The letters and digits of a text in lower case. -/
def letters (cs : List Char) : List Char := (cs.filter isWordChar).map Char.toLower

section

variable {before : Option (Char × Bool)} {c : Char} {cs word : List Char}

theorem spread_word (h : isWordChar c = true) : spread before (c :: cs) =
    (if before.any fun p => p.2 || startsWord p.1 c then ['-'] else []) ++
      c.toLower :: spread (some (c, false)) cs := by
  rw [spread, if_pos h]

theorem spread_other (h : isWordChar c = false) :
    spread before (c :: cs) = spread (before.map fun p => (p.1, true)) cs := by
  rw [spread, if_neg (by rw [h]; exact Bool.false_ne_true)]

theorem spread_append (before : Option (Char × Bool)) (cs ds : List Char) :
    spread before (cs ++ ds) = spread before cs ++ spread (behind before cs) ds := by
  induction cs generalizing before with
  | nil => rfl
  | cons c cs ih =>
    rw [List.cons_append, behind]
    cases hc : isWordChar c with
    | true => rw [spread_word hc, spread_word hc, ih, if_pos rfl, List.append_assoc,
        List.cons_append]
    | false => rw [spread_other hc, spread_other hc, ih, if_neg Bool.false_ne_true]

theorem spread_others (h : ∀ c ∈ cs, isWordChar c = false) : spread before cs = [] := by
  induction cs generalizing before with
  | nil => rfl
  | cons c cs ih =>
    obtain ⟨hc, hcs⟩ := List.forall_mem_cons.mp h
    rw [spread_other hc, ih hcs]

theorem behind_others (h : ∀ c ∈ cs, isWordChar c = false) (a : Char) (gap : Bool) :
    behind (some (a, gap)) cs = some (a, gap || !cs.isEmpty) := by
  induction cs generalizing gap with
  | nil => rw [behind, List.isEmpty_nil, Bool.not_true, Bool.or_false]
  | cons c cs ih =>
    obtain ⟨hc, hcs⟩ := List.forall_mem_cons.mp h
    rw [behind, hc, if_neg Bool.false_ne_true, Option.map_some, ih hcs]
    simp

/-- A letter or digit is there in lower case, with at most a hyphen before it. -/
theorem exists_spread_word (h : isWordChar c = true) (before : Option (Char × Bool))
    (cs : List Char) : ∃ l, l.filter (· != '-') = [] ∧
      spread before (c :: cs) = l ++ c.toLower :: spread (some (c, false)) cs := by
  refine ⟨_, ?_, spread_word h⟩
  split_ifs <;> rfl

/-- Without its hyphens a stem is what it was made from. -/
theorem filter_spread (before : Option (Char × Bool)) (cs : List Char) :
    (spread before cs).filter (· != '-') = letters cs := by
  induction cs generalizing before with
  | nil => rfl
  | cons c cs ih =>
    cases hc : isWordChar c with
    | true =>
      obtain ⟨l, hl, hspread⟩ := exists_spread_word hc before cs
      have hne := ne_hyphen_of_isStemChar (isStemChar_toLower hc)
      rw [hspread, List.filter_append, hl, List.nil_append,
        List.filter_cons_of_pos (by simpa using hne), ih, letters, letters,
        List.filter_cons_of_pos hc, List.map_cons]
    | false =>
      rw [spread_other hc, ih, letters, letters, List.filter_cons_of_neg (by simp [hc])]

/-- Between a letter or digit and the next one stands a hyphen just if other characters stand
between them or a word starts with the second. -/
theorem spread_neighbours (pre post : List Char) {mid : List Char} {a b : Char}
    (ha : isWordChar a = true) (hb : isWordChar b = true)
    (hmid : ∀ c ∈ mid, isWordChar c = false) :
    ∃ l r, spread none (pre ++ a :: (mid ++ b :: post)) = l ++ a.toLower ::
        ((if mid ≠ [] ∨ startsWord a b = true then ['-'] else []) ++ b.toLower :: r) ∧
      l.filter (· != '-') = letters pre ∧ r.filter (· != '-') = letters post := by
  obtain ⟨l, hl, hspread⟩ := exists_spread_word ha (behind none pre) (mid ++ b :: post)
  refine ⟨spread none pre ++ l, spread (some (b, false)) post, ?_, ?_, filter_spread _ _⟩
  · rw [spread_append, hspread, spread_append, spread_others hmid, List.nil_append,
      behind_others hmid, spread_word hb, List.append_assoc]
    simp
  · rw [List.filter_append, filter_spread, hl, List.append_nil]

/-- What comes of a word that is being collected at the next character. -/
theorem collectWords_cons (p : Char) (w : List Char) (c : Char) (cs : List Char) :
    collectWords (p :: w) (c :: cs) =
      if isWordChar c then
        if startsWord p c then (p :: w).reverse :: collectWords [c] cs
        else collectWords (c :: p :: w) cs
      else (p :: w).reverse :: collectWords [] cs := by
  rw [collectWords]
  cases isWordChar c <;> rfl

theorem collectWords_nil_cons (c : Char) (cs : List Char) :
    collectWords [] (c :: cs) = if isWordChar c then collectWords [c] cs else collectWords [] cs :=
  rfl

theorem collectWords_ne_nil (p : Char) (w cs : List Char) : collectWords (p :: w) cs ≠ [] := by
  induction cs generalizing p w with
  | nil => exact List.cons_ne_nil _ _
  | cons c cs ih =>
    rw [collectWords_cons]
    split_ifs
    · exact List.cons_ne_nil _ _
    · exact ih c (p :: w)
    · exact List.cons_ne_nil _ _

/-- There is something in each word, and it consists of letters and digits. -/
theorem of_mem_collectWords (hword : ∀ c ∈ word, isWordChar c = true) {w : List Char}
    (h : w ∈ collectWords word cs) : w ≠ [] ∧ ∀ c ∈ w, isWordChar c = true := by
  have hreverse : ∀ c ∈ word.reverse, isWordChar c = true := fun c hc =>
    hword c (List.mem_reverse.mp hc)
  induction cs generalizing word with
  | nil =>
    rw [collectWords] at h
    split_ifs at h with hempty
    · cases h
    · rw [List.mem_singleton.mp h]
      exact ⟨by simpa using hempty, hreverse⟩
  | cons c cs ih =>
    cases word with
    | nil =>
      rw [collectWords_nil_cons] at h
      split_ifs at h with hc
      · exact ih (List.forall_mem_singleton.mpr hc) h (List.forall_mem_singleton.mpr hc)
      · exact ih hword h hreverse
    | cons p w' =>
      have hfinished : (p :: w').reverse ≠ [] := by simp
      rw [collectWords_cons] at h
      split_ifs at h with hc hstarts
      · rcases List.mem_cons.mp h with rfl | h
        · exact ⟨hfinished, hreverse⟩
        · exact ih (List.forall_mem_singleton.mpr hc) h (List.forall_mem_singleton.mpr hc)
      · have hword : ∀ d ∈ c :: p :: w', isWordChar d = true :=
          List.forall_mem_cons.mpr ⟨hc, hword⟩
        exact ih hword h fun d hd => hword d (List.mem_reverse.mp hd)
      · rcases List.mem_cons.mp h with rfl | h
        · exact ⟨hfinished, hreverse⟩
        · exact ih (List.forall_mem_nil _) h (List.forall_mem_nil _)

/-- Words in lower case. -/
def lowered (ws : List (List Char)) : List (List Char) := ws.map (·.map Char.toLower)

/-- Words that are being collected become what is written down character by character. -/
theorem hyphened_collectWords (p : Char) (w cs : List Char) :
    hyphened (lowered (collectWords (p :: w) cs)) =
        (p :: w).reverse.map Char.toLower ++ spread (some (p, false)) cs ∧
      ∀ q, (lowered (collectWords [] cs)).flatMap ('-' :: ·) = spread (some (q, true)) cs := by
  induction cs generalizing p w with
  | nil => exact ⟨rfl, fun q => rfl⟩
  | cons c cs ih =>
    have hnext : (lowered (collectWords [c] cs)).flatMap ('-' :: ·) =
        '-' :: c.toLower :: spread (some (c, false)) cs := by
      have hne : lowered (collectWords [c] cs) ≠ [] :=
        mt List.map_eq_nil_iff.mp (collectWords_ne_nil c [] cs)
      rw [flatMap_hyphen hne, (ih c []).1]
      rfl
    rw [collectWords_cons, collectWords_nil_cons]
    cases hc : isWordChar c with
    | false =>
      rw [if_neg Bool.false_ne_true, if_neg Bool.false_ne_true]
      refine ⟨?_, fun q => ?_⟩
      · rw [spread_other hc]
        exact congrArg _ ((ih p w).2 p)
      · rw [spread_other hc]
        exact (ih p w).2 q
    | true =>
      rw [if_pos rfl, if_pos rfl]
      refine ⟨?_, fun q => ?_⟩
      · rw [spread_word hc, Option.any_some, Bool.false_or]
        split_ifs
        · exact congrArg _ hnext
        · rw [(ih c (p :: w)).1]
          simp
      · rw [spread_word hc, hnext]
        simp

theorem hyphened_words (cs : List Char) : hyphened (lowered (words cs)) = spread none cs := by
  induction cs with
  | nil => rfl
  | cons c cs ih =>
    rw [words, collectWords_nil_cons]
    cases hc : isWordChar c with
    | true =>
      rw [spread_word hc, if_pos rfl, (hyphened_collectWords c [] cs).1]
      rfl
    | false =>
      rw [spread_other hc, if_neg Bool.false_ne_true]
      exact ih

theorem areStemWords_lowered (cs : List Char) : AreStemWords (lowered (words cs)) := by
  refine List.forall_mem_map.mpr fun w hw => ?_
  obtain ⟨hne, hchars⟩ := of_mem_collectWords (List.forall_mem_nil _) hw
  exact ⟨mt List.map_eq_nil_iff.mp hne,
    List.forall_mem_map.mpr fun c hc => isStemChar_toLower (hchars c hc)⟩

theorem spread_stemWord {w : List Char} (h : ∀ c ∈ w, isStemChar c = true) (p : Char)
    (rest : List Char) : ∃ q,
      spread (some (p, false)) (w ++ rest) = w ++ spread (some (q, false)) rest := by
  induction w generalizing p with
  | nil => exact ⟨p, rfl⟩
  | cons c w ih =>
    obtain ⟨hc, hw⟩ := List.forall_mem_cons.mp h
    obtain ⟨q, hq⟩ := ih hw c
    refine ⟨q, ?_⟩
    rw [List.cons_append, spread_word (isWordChar_of_isStemChar hc), hq, Option.any_some,
      startsWord_of_isStemChar hc, toLower_of_isStemChar hc]
    rfl

/-- A first word of a stem stays as it is. -/
theorem exists_spread_stemWord {w : List Char} (hne : w ≠ []) (h : ∀ c ∈ w, isStemChar c = true)
    (before : Option (Char × Bool)) (rest : List Char) : ∃ q, spread before (w ++ rest) =
      (if before.any (·.2) then ['-'] else []) ++ (w ++ spread (some (q, false)) rest) := by
  cases w with
  | nil => exact absurd rfl hne
  | cons c w =>
    obtain ⟨hc, hw⟩ := List.forall_mem_cons.mp h
    obtain ⟨q, hq⟩ := spread_stemWord hw c rest
    refine ⟨q, ?_⟩
    rw [List.cons_append, spread_word (isWordChar_of_isStemChar hc), hq,
      toLower_of_isStemChar hc]
    simp [startsWord_of_isStemChar hc]

/-- Words of stems with hyphens between them stay as they are. -/
theorem spread_hyphened {ws : List (List Char)} (h : AreStemWords ws) :
    spread none (hyphened ws) = hyphened ws := by
  have hrest (p : Char) {ws : List (List Char)} (h : AreStemWords ws) :
      spread (some (p, false)) (ws.flatMap ('-' :: ·)) = ws.flatMap ('-' :: ·) := by
    induction ws generalizing p with
    | nil => rfl
    | cons w ws ih =>
      obtain ⟨⟨hne, hw⟩, hws⟩ := List.forall_mem_cons.mp h
      obtain ⟨q, hq⟩ := exists_spread_stemWord hne hw (some (p, true)) (ws.flatMap ('-' :: ·))
      rw [List.flatMap_cons, List.cons_append, spread_other (by decide), Option.map_some, hq,
        ih q hws]
      rfl
  cases ws with
  | nil => rfl
  | cons w ws =>
    obtain ⟨⟨hne, hw⟩, hws⟩ := List.forall_mem_cons.mp h
    obtain ⟨q, hq⟩ := exists_spread_stemWord hne hw none (ws.flatMap ('-' :: ·))
    rw [hyphened, hq, hrest q hws]
    rfl

end

/-- What the stem of a name is: words of lower-case letters and digits with single hyphens between
them, which are the letters and digits of the name, or else a word of their own. Between two
neighbouring letters or digits stands a hyphen just if something else stands between them in the
name, or an upper-case letter follows a lower-case one or a digit. -/
structure IsStem (name stem : String) : Prop where
  words : ∃ ws : List String, ws ≠ [] ∧ stem = Text.join "-" ws ∧
    ∀ w ∈ ws, w ≠ "" ∧ ∀ c ∈ w.toList, isStemChar c = true
  letters : stem.toList.filter (· != '-') =
    if letters name.toList = [] then "component".toList else letters name.toList
  hyphens : ∀ pre a mid b post, name.toList = pre ++ a :: (mid ++ b :: post) →
    isWordChar a = true → isWordChar b = true → (∀ c ∈ mid, isWordChar c = false) →
    ∃ l r, stem.toList = l ++ a.toLower ::
        ((if mid ≠ [] ∨ isStemChar a = true ∧ b.isUpper = true then ['-'] else []) ++
          b.toLower :: r) ∧
      l.filter (· != '-') = Naming.letters pre ∧ r.filter (· != '-') = Naming.letters post

section

variable {name stem : String} {cs : List Char} {ws : List (List Char)}

theorem letters_eq_nil_iff : letters cs = [] ↔ ∀ c ∈ cs, isWordChar c = false := by
  simp [letters]

theorem spread_eq_nil_iff : spread none cs = [] ↔ letters cs = [] := by
  refine ⟨fun h => ?_, fun h => spread_others (letters_eq_nil_iff.mp h)⟩
  rw [← filter_spread none cs, h, List.filter_nil]

theorem toList_fileStem (name : String) : (fileStem name).toList =
    if letters name.toList = [] then "component".toList else spread none name.toList := by
  have hspread := hyphened_words name.toList
  unfold fileStem
  split
  next hnone =>
    rw [hnone] at hspread
    rw [if_pos (spread_eq_nil_iff.mp hspread.symm)]
  next ws hsome =>
    have hne : spread none name.toList ≠ [] := by
      rw [← hspread]
      exact hyphened_ne_nil (mt List.map_eq_nil_iff.mp hsome) (areStemWords_lowered _)
    rw [if_neg (mt spread_eq_nil_iff.mpr hne), toList_join_hyphen, ← hspread, lowered,
      List.map_map]
    congr 2
    exact funext fun w => String.toList_ofList

/-- Words with hyphens between them are a stem that stays as it is. -/
theorem fileStem_of_hyphened (hne : ws ≠ []) (hws : AreStemWords ws)
    (h : stem.toList = hyphened ws) : fileStem stem = stem := by
  have hspread : spread none stem.toList = stem.toList := by
    rw [h, spread_hyphened hws]
  have hfilled : stem.toList ≠ [] := by
    rw [h]
    exact hyphened_ne_nil hne hws
  refine String.toList_inj.mp ?_
  rw [toList_fileStem, if_neg, hspread]
  rwa [← spread_eq_nil_iff, hspread]

/-- A stem is words with hyphens between them. -/
theorem exists_hyphened (name : String) :
    ∃ ws, ws ≠ [] ∧ AreStemWords ws ∧ (fileStem name).toList = hyphened ws := by
  rw [toList_fileStem]
  split_ifs with h
  · exact ⟨["component".toList], List.cons_ne_nil _ _,
      List.forall_mem_singleton.mpr ⟨by decide, List.all_eq_true.mp rfl⟩, rfl⟩
  · refine ⟨lowered (words name.toList), fun hnil => ?_, areStemWords_lowered _,
      (hyphened_words _).symm⟩
    rw [← spread_eq_nil_iff, ← hyphened_words, hnil] at h
    exact h rfl

theorem fileStem_fileStem (name : String) : fileStem (fileStem name) = fileStem name := by
  obtain ⟨ws, hne, hws, h⟩ := exists_hyphened name
  exact fileStem_of_hyphened hne hws h

theorem isStem_fileStem (name : String) : IsStem name (fileStem name) where
  words := by
    obtain ⟨ws, hne, hws, h⟩ := exists_hyphened name
    refine ⟨ws.map String.ofList, mt List.map_eq_nil_iff.mp hne, ?_,
      List.forall_mem_map.mpr fun w hw => ?_⟩
    · refine String.toList_inj.mp ?_
      rw [toList_join_hyphen, h, List.map_map]
      simp
    · rw [String.toList_ofList]
      exact ⟨fun hempty => (hws w hw).1 (by simpa using hempty), (hws w hw).2⟩
  letters := by
    rw [toList_fileStem]
    split_ifs
    · rfl
    · exact filter_spread _ _
  hyphens pre a mid b post hname ha hb hmid := by
    have hletters : letters name.toList ≠ [] := fun hnone => by
      have hmem : a ∈ name.toList := hname ▸ List.mem_append_cons_self
      exact absurd (letters_eq_nil_iff.mp hnone a hmem) (by rw [ha]; decide)
    obtain ⟨l, r, hspread, hl, hr⟩ := spread_neighbours pre post ha hb hmid
    refine ⟨l, r, ?_, hl, hr⟩
    have hstarts : startsWord a b = true ↔ isStemChar a = true ∧ b.isUpper = true := by
      rw [startsWord, isStemChar, Bool.and_eq_true]
    rw [toList_fileStem, if_neg hletters, hname, hspread, if_congr (or_congr_right hstarts) rfl rfl]

/-- A stem has no slash in it. -/
theorem slash_not_mem_fileStem (name : String) : '/' ∉ (fileStem name).toList := fun hmem => by
  have hletter : '/' ∈ (fileStem name).toList.filter (· != '-') :=
    List.mem_filter.mpr ⟨hmem, by decide⟩
  rw [(isStem_fileStem name).letters] at hletter
  split_ifs at hletter
  · exact absurd hletter (by decide)
  · obtain ⟨c, hc, hlower⟩ := List.mem_map.mp hletter
    have hstem := isStemChar_toLower (List.mem_filter.mp hc).2
    rw [hlower] at hstem
    exact absurd hstem (by decide)

end

end Componentry.Naming
