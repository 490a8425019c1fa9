import Componentry.Proofs.Script.Printed
import Componentry.Proofs.Script.Recovered

/-!
# The lexemes of expressions

A printed expression has the lexemes that it is written with, or none: where a point follows a
numeral, or one sign another, the text has no lexemes at all, and then the expression does not keep
its nesting.
-/

namespace Componentry.Script

variable {n : Node} {cs rest : List Char}

def endsName (cs : List Char) : Bool := cs.head?.all fun c => !continuesName c

theorem endsName_of_isSeparate (h : isSeparate cs = true) : endsName cs = true := by
  cases cs with
  | nil => rfl
  | cons c cs =>
    simp only [isSeparate, List.head?_cons, Option.all_some, Bool.and_eq_true] at h
    exact h.1

def Part.isKept : Part → Bool
  | .one _ n => Script.isKept n
  | .enclosed _ n => Script.isKept n
  | .all _ _ ns => areKept ns

/-- A text has the lexemes of a piece, up to the text behind it, or it has none and the piece is not
kept. -/
def Lexed (p : Part) (cs : List Char) (b : Bool) (rest : List Char) : Prop :=
  (∃ ls e, Written b p ls ∧ lexemes b (cs ++ rest) = (lexemes e rest).map (ls ++ ·)) ∨
    lexemes b (cs ++ rest) = none ∧ p.isKept = false

/-- The text of an expression. What follows goes on with no name, but a point may follow. -/
structure Spelled (n : Node) (cs : List Char) : Prop where
  sign : isNegative n = true → cs.head? = some '-'
  lexed : ∀ b rest, endsName rest = true →
    (∃ ls e, Written b (.one .expression n) ls ∧
      (isSeparate rest = true ∨ isUnsigned n = false) ∧
      lexemes b (cs ++ rest) = (lexemes e rest).map (ls ++ ·)) ∨
    lexemes b (cs ++ rest) = none ∧
      (isSeparate rest = true ∨ isTight n = true ∧ isUnsigned n = false → isKept n = false)

theorem Spelled.separate (h : Spelled n cs) (b : Bool) (hrest : isSeparate rest = true) :
    Lexed (.one .expression n) cs b rest := by
  obtain ⟨ls, e, hw, -, hlex⟩ | ⟨hlex, hkept⟩ := h.lexed b rest (endsName_of_isSeparate hrest)
  · exact Or.inl ⟨ls, e, hw, hlex⟩
  · exact Or.inr ⟨hlex, hkept (Or.inl hrest)⟩

/-- A text that is no numeral, and whose lexemes do not depend on what follows. -/
theorem Spelled.of_lexed (hsign : isNegative n = false) (hunsigned : isUnsigned n = false)
    (h : ∀ b rest, endsName rest = true → Lexed (.one .expression n) cs b rest) : Spelled n cs := by
  refine ⟨fun hn => (nomatch hsign.symm.trans hn), fun b rest hrest => ?_⟩
  obtain ⟨ls, e, hw, hlex⟩ | ⟨hlex, hkept⟩ := h b rest hrest
  · exact Or.inl ⟨ls, e, hw, Or.inr hunsigned, hlex⟩
  · exact Or.inr ⟨hlex, fun _ => hkept⟩

theorem spelled_word {s : String} (hb : s.toList.head?.any beginsName = true)
    (hc : ∀ c ∈ s.toList, continuesName c = true) (hs : operandOfWord? s = some n)
    (hop : operator? (.word s) = none) : Spelled n s.toList := by
  have hleaf : isNegative n = false ∧ isUnsigned n = false := by
    rcases operandOfWord?_cases hs with rfl | rfl | ⟨b, rfl⟩ | rfl <;> exact ⟨rfl, rfl⟩
  refine .of_lexed hleaf.1 hleaf.2 fun b rest hrest => Or.inl ⟨_, false, .word hs hop b, ?_⟩
  rw [lexemes_word b hb hc hrest, String.ofList_toList]
  rfl

theorem lexemes_name {k : String} (hk : IsName k) (b : Bool) (hrest : endsName rest = true) :
    lexemes b (k.toList ++ rest) = (lexemes false rest).map (⟨.word k, b⟩ :: ·) := by
  obtain ⟨name, ws, -, -, hb, hc, hsettled⟩ := bareName_parts hk.1
  rw [settledName_of_not_mem hk.2.1] at hsettled
  rw [hsettled, String.toList_ofList]
  exact lexemes_word b hb hc hrest

theorem spelled_name {k : String} (hk : IsName k) : Spelled (.identifier (.str k)) k.toList := by
  obtain ⟨hs, hop⟩ := word_of_not_keyword hk.2.2
  exact .of_lexed rfl rfl fun b rest hrest =>
    Or.inl ⟨_, false, .word hs hop b, lexemes_name hk b hrest⟩

theorem spelled_text {quote : Char} (hq : IsQuote quote) (s : String) :
    Spelled (.stringLiteral (.str s)) (quoted quote s.toList) := by
  refine .of_lexed rfl rfl fun b rest _ => Or.inl ⟨_, false, .text s b, ?_⟩
  rw [lexemes_quoted b hq, String.ofList_toList]
  rfl

theorem lexemes_eq_none (b : Bool) {c : Char} (hl : endsLine c = false) (hs : isSpace c = false)
    (h : token? (c :: cs) = none) : lexemes b (c :: cs) = none := by
  rw [lexemes, if_neg (by rw [hl]; exact Bool.false_ne_true),
    if_neg (by rw [hs]; exact Bool.false_ne_true)]
  split
  · rfl
  · next hn => cases h.symm.trans hn

theorem head_digits (n : Nat) : ∃ c ds, Text.digits n = c :: ds ∧ c.isDigit = true := by
  cases hds : Text.digits n with
  | nil => exact absurd hds (digits_ne_nil n)
  | cons c ds => exact ⟨c, ds, rfl, isDigit_of_mem_digits (hds ▸ List.mem_cons_self)⟩

/-- A numeral has no lexeme where a point follows it. -/
theorem lexemes_natural_point (b : Bool) (n : Nat) (cs : List Char) :
    lexemes b (Text.digits n ++ '.' :: cs) = none := by
  have hnum : numeral? (Text.digits n ++ '.' :: cs) = none := by
    have hdigit : ∀ c ∈ Text.digits n, c.isDigit = true := fun _ => isDigit_of_mem_digits
    obtain ⟨ht, hd⟩ := takeWhile_append_of_separate hdigit
      (show ('.' :: cs).head?.all (fun c => !c.isDigit) = true from rfl)
    have hpoint : (('.' :: cs).head?.any fun c => beginsName c || c = '.') = true := rfl
    simp only [numeral?, ht, hd, hpoint, if_true, ite_self]
  obtain ⟨c, ds, hds, hc⟩ := head_digits n
  have hname : continuesName c = true := by rw [continuesName, hc, Bool.or_true]
  obtain ⟨hl, hs⟩ := not_white_of_toNat (toNat_of_continuesName hname)
  rw [hds, List.cons_append] at hnum ⊢
  apply lexemes_eq_none b hl hs
  simp only [token?, beginsName_of_isDigit hc, hc, hnum, Bool.false_eq_true, if_false, if_true,
    Option.map_none]

theorem point_of_not_separate (h : endsName cs = true) (hs : isSeparate cs = false) :
    ∃ more, cs = '.' :: more := by
  cases cs with
  | nil => cases hs
  | cons c cs =>
    have hc : (!continuesName c) = true := h
    simp only [isSeparate, List.head?_cons, Option.all_some, hc, Bool.true_and, bne_eq_false_iff_eq]
      at hs
    exact ⟨cs, by rw [hs]⟩

theorem spelled_natural (i : Nat) : Spelled (.numericLiteral (.int i)) (Text.digits i) := by
  have hsign : isNegative (.numericLiteral (.int i)) = false := by simp [isNegative]
  have hunsigned : isUnsigned (.numericLiteral (.int i)) = true := by simp [isUnsigned]
  refine ⟨fun hn => absurd (hsign.symm.trans hn) Bool.false_ne_true, fun b rest hrest => ?_⟩
  cases hs : isSeparate rest with
  | true =>
    refine Or.inl ⟨_, false, .natural i b, Or.inl rfl, ?_⟩
    exact lexemes_natural b i hs
  | false =>
    obtain ⟨more, rfl⟩ := point_of_not_separate hrest hs
    refine Or.inr ⟨lexemes_natural_point b i more, ?_⟩
    rintro (h | ⟨-, h⟩)
    · cases h
    · cases hunsigned.symm.trans h

theorem spelled_negative (i : Nat) :
    Spelled (.numericLiteral (.int (-(i + 1 : Nat)))) ('-' :: Text.digits (i + 1)) := by
  have hunsigned : isUnsigned (.numericLiteral (.int (-(i + 1 : Nat)))) = false := by
    rw [isUnsigned, decide_eq_false (by omega)]
  refine ⟨fun _ => rfl, fun b rest hrest => ?_⟩
  have hmark : ((Text.digits (i + 1) ++ rest).head?.any (goesOn '-')) = false := by
    obtain ⟨d, ds, hds, hd⟩ := head_digits (i + 1)
    rw [hds, List.cons_append, List.head?_cons, Option.any_some, ← Bool.not_eq_true]
    simp only [goesOn, Bool.or_eq_true, decide_eq_true_eq]
    rintro (rfl | rfl) <;> cases hd
  rw [List.cons_append, lexemes_mark b (by decide) hmark]
  cases hs : isSeparate rest with
  | true =>
    refine Or.inl ⟨_, false, .negative i b false, Or.inl rfl, ?_⟩
    rw [lexemes_natural false _ hs, Option.map_map]
    rfl
  | false =>
    obtain ⟨more, rfl⟩ := point_of_not_separate hrest hs
    refine Or.inr ⟨by rw [lexemes_natural_point]; rfl, ?_⟩
    rintro (h | ⟨h, -⟩)
    · cases h
    · cases (isTight_negative i).symm.trans h

def LexedItem (role : Role) (n : Node) (cs : List Char) : Prop :=
  ∀ b rest, isSeparate rest = true → Lexed (.one role n) cs b rest

/-- The text of a list with the mark that closes it, which nothing goes on with. -/
def LexedList (role : Role) (close : Char) (ns : List Node) (cs : List Char) : Prop :=
  ∀ b rest, (∃ c ls, Written c (.all role close ns) ls ∧
      lexemes b (cs ++ rest) = (lexemes false rest).map (ls ++ ·)) ∨
    lexemes b (cs ++ rest) = none ∧ areKept ns = false

section

variable {role : Role} {close : Char} {ns : List Node} {item : List Char}
  {items : List (List Char)}

theorem lexedList_nil (role : Role) (hclose : close ∈ brackets) :
    LexedList role close [] [close] := fun b rest =>
  Or.inl ⟨b, _, .nil role close b, lexemes_bracket b hclose rest⟩

theorem lexedList_last (layout : Layout) (hclose : close ∈ brackets) (h : LexedItem role n item) :
    LexedList role close [n] (layout.list [','] close [item]) := by
  intro b rest
  have hafter : isSeparate (layout.after ++ close :: rest) = true :=
    isSeparate_blank layout.after_blank (isSeparate_bracket hclose rest)
  rw [Layout.list]
  simp only [List.append_assoc, List.singleton_append]
  rw [lexemes_blank layout.before_blank]
  obtain ⟨ls, e, hw, hlex⟩ | ⟨hlex, hkept⟩ := h (layout.breaks b) _ hafter
  · refine Or.inl ⟨_, _, hw.last close (e || layout.after.any endsLine), ?_⟩
    rw [Layout.breaks] at hlex
    rw [hlex, lexemes_blank layout.after_blank, lexemes_bracket _ hclose, Option.map_map]
    simp only [Function.comp_def, List.append_assoc, List.singleton_append]
  · exact Or.inr ⟨hlex, by rw [areKept, show isKept n = false from hkept]; rfl⟩

theorem lexedList_next (layout : Layout) (hns : ns ≠ []) (h : LexedItem role n item)
    {next : List Char} (hrest : LexedList role close ns (layout.list [','] close (next :: items))) :
    LexedList role close (n :: ns) (layout.list [','] close (item :: next :: items)) := by
  intro b rest
  have hcomma : ',' ∈ brackets := by decide
  obtain ⟨m, ns, rfl⟩ := List.exists_cons_of_ne_nil hns
  rw [Layout.list]
  simp only [List.append_assoc, List.cons_append, List.nil_append]
  rw [lexemes_blank layout.before_blank]
  obtain ⟨ls, e, hw, hlex⟩ | ⟨hlex, hkept⟩ :=
    h (layout.breaks b) _ (isSeparate_bracket hcomma
      (layout.between ++ (layout.list [','] close (next :: items) ++ rest)))
  · rw [Layout.breaks] at hlex
    rw [hlex, lexemes_bracket e hcomma, lexemes_blank layout.between_blank]
    obtain ⟨c, ls', hw', hlex'⟩ | ⟨hlex', hkept⟩ := hrest (layout.between.any endsLine) rest
    · refine Or.inl ⟨_, _, hw.next hw' e, ?_⟩
      rw [Bool.false_or, hlex', Option.map_map, Option.map_map]
      simp only [Function.comp_def, List.append_assoc, List.cons_append]
    · refine Or.inr ⟨by rw [Bool.false_or, hlex']; rfl, ?_⟩
      rw [areKept, hkept, Bool.and_false]
  · exact Or.inr ⟨hlex, by rw [areKept, show isKept n = false from hkept]; rfl⟩

theorem lexedList_list (layout : Layout) (hclose : close ∈ brackets)
    (h : List.Forall₂ (fun cs n => LexedItem role n cs) items ns) (hitems : items ≠ []) :
    LexedList role close ns (layout.list [','] close items) := by
  induction h with
  | nil => exact absurd rfl hitems
  | cons hitem hrest ih =>
    cases hrest with
    | nil => exact lexedList_last layout hclose hitem
    | cons =>
      exact lexedList_next layout (List.cons_ne_nil _ _) hitem (ih (List.cons_ne_nil _ _))

variable {ss : List String}

theorem lexedList_inline (hclose : close ∈ brackets)
    (h : List.Forall₂ (fun s n => LexedItem role n s.toList) ss ns) :
    LexedList role close ns ((Text.join ", " ss).toList ++ [close]) := by
  by_cases hss : ss = []
  · subst hss
    cases h
    exact lexedList_nil role hclose
  · rw [toList_join_inline close hss]
    exact lexedList_list Layout.inline hclose (List.forall₂_map_left_iff.mpr h)
      (mt List.map_eq_nil_iff.mp hss)

theorem lexedList_lines {inner outer : String} (hinner : IsBlank inner.toList)
    (houter : IsBlank outer.toList) (hclose : close ∈ brackets)
    (h : List.Forall₂ (fun s n => LexedItem role n s.toList) ss ns) (hss : ss ≠ []) :
    LexedList role close ns ('\n' :: ((Text.join ("," ++ "\n") (ss.map (inner ++ ·)) ++ "\n" ++
      outer).toList ++ [close])) := by
  intro b rest
  rw [List.cons_append, lexemes_lineEnd b rfl, toList_join_lines "," inner outer close hinner houter
    hss]
  exact lexedList_list (Layout.lines hinner houter) hclose (List.forall₂_map_left_iff.mpr h)
    (mt List.map_eq_nil_iff.mp hss) true rest

end

theorem spelled_array {es : List Node} (h : LexedList .expression ']' es cs) :
    Spelled (.arrayExpression es) ('[' :: cs) := by
  refine .of_lexed rfl rfl fun b rest _ => ?_
  rw [Lexed, List.cons_append, lexemes_bracket b (by decide)]
  obtain ⟨c, ls, hw, hlex⟩ | ⟨hlex, hkept⟩ := h false rest
  · refine Or.inl ⟨_, false, hw.array b, ?_⟩
    rw [hlex, Option.map_map]
    rfl
  · exact Or.inr ⟨by rw [hlex]; rfl, hkept⟩

theorem spelled_object {ms : List Node} (h : LexedList .member '\x7d' ms cs) :
    Spelled (.objectExpression ms) ('\x7b' :: cs) := by
  refine .of_lexed rfl rfl fun b rest _ => ?_
  rw [Lexed, List.cons_append, lexemes_bracket b (by decide)]
  obtain ⟨c, ls, hw, hlex⟩ | ⟨hlex, hkept⟩ := h false rest
  · refine Or.inl ⟨_, false, hw.object b, ?_⟩
    rw [hlex, Option.map_map]
    rfl
  · exact Or.inr ⟨by rw [hlex]; rfl, hkept⟩

theorem lexedItem_property {quote : Char} (hq : IsQuote quote) {key : Node} {k : String}
    (hkey : key = .identifier (.str k) ∨ key = .stringLiteral (.str k)) (h : Spelled n cs) :
    LexedItem .member (.objectProperty key n (.bool false))
      ((writtenKey quote k).toList ++ ':' :: ' ' :: cs) := by
  intro b rest hrest
  obtain ⟨e, hlex, -⟩ := reads_writtenKey hq k
  have hcolon : ':' ∈ brackets := by decide
  rw [Lexed, List.append_assoc, List.cons_append, List.cons_append,
    hlex b _ (isSeparate_bracket hcolon _), lexemes_bracket e hcolon, lexemes_space false rfl rfl]
  obtain ⟨ls, f, hw, hlex'⟩ | ⟨hlex', hkept⟩ := h.separate false hrest
  · refine Or.inl ⟨_, f, .property hkey hw b e, ?_⟩
    rw [hlex', Option.map_map, Option.map_map]
    rfl
  · exact Or.inr ⟨by rw [hlex']; rfl, hkept⟩

theorem lexedItem_binding {k : String} (hk : IsName k) : LexedItem .member
    (.objectProperty (.identifier (.str k)) (.identifier (.str k)) (.bool true)) k.toList :=
  fun b _ hrest =>
    Or.inl ⟨_, false, .binding hk b, lexemes_name hk b (endsName_of_isSeparate hrest)⟩

end Componentry.Script
