import Componentry.Proofs.Script.Spelled

/-!
# The lexemes of accesses, calls and functions

What stands before a point or a bracket is written in parentheses where the printer wraps it. An
access has no lexemes where a numeral stands before the point.
-/

namespace Componentry.Script

variable {n : Node} {cs rest : List Char}

theorem lexemes_point {k : String} (hk : Naming.isIdentifierName k = true)
    (hrest : endsName rest = true) : ∃ e, ∀ b, lexemes b ('.' :: (k.toList ++ rest)) =
      (lexemes e rest).map fun more =>
        ⟨.mark '.', b⟩ :: ⟨.word (settledName k), false⟩ :: more := by
  obtain ⟨name, ws, heq, hws, hb, hc, hsettled⟩ := bareName_parts hk
  refine ⟨ws.any endsLine, fun b => ?_⟩
  have hends : endsName (ws ++ rest) = true := by
    rcases hws with rfl | rfl
    · exact hrest
    · rfl
  rw [heq, List.append_assoc, lexemes_mark b (by decide) (not_goesOn_point hb _),
    lexemes_word false hb hc hends, lexemes_blank (isBlank_lineFeed hws), hsettled, Option.map_map,
    Bool.false_or]
  rfl

theorem Spelled.access (h : Spelled n cs) {k : String} (hk : Naming.isIdentifierName k = true) :
    Spelled (.memberExpression n (.identifier (.str k)) (.bool false))
      (cs ++ '.' :: k.toList) := by
  refine .of_lexed rfl rfl fun b rest hrest => ?_
  obtain ⟨f, hpoint⟩ := lexemes_point hk hrest
  rw [Lexed, List.append_assoc, List.cons_append]
  obtain ⟨ls, e, hw, hfits, hlex⟩ | ⟨hlex, hkept⟩ := h.lexed b ('.' :: (k.toList ++ rest)) rfl
  · have hunsigned : isUnsigned n = false := hfits.resolve_left Bool.false_ne_true
    refine Or.inl ⟨_, f, hw.access hk hunsigned e false, ?_⟩
    rw [hlex, hpoint, Option.map_map]
    simp only [Function.comp_def, List.append_assoc, List.cons_append, List.nil_append]
  · refine Or.inr ⟨hlex, ?_⟩
    rw [Part.isKept, isKept_access, followsPoint, hk, Bool.and_true, ← Bool.not_eq_true]
    simp only [Bool.and_eq_true, Bool.not_eq_true']
    rintro ⟨⟨hn, htight⟩, hunsigned⟩
    cases hn.symm.trans (hkept (Or.inr ⟨htight, hunsigned⟩))

theorem isKept_member_eq_false {p : Node} (h : isKept n = false) (c : Value) :
    isKept (.memberExpression n p c) = false := by
  rw [← Bool.not_eq_true]
  exact fun hkept => nomatch h.symm.trans (isTight_of_isKept hkept).1

theorem Spelled.quoted (h : Spelled n cs) {quote : Char} (hq : IsQuote quote) {k : String}
    (hk : Naming.isIdentifierName k = false) :
    Spelled (.memberExpression n (.identifier (.str k)) (.bool false))
      (cs ++ '[' :: (Script.quoted quote k.toList ++ [']'])) := by
  refine .of_lexed rfl rfl fun b rest _ => ?_
  have hopen : '[' ∈ brackets := by decide
  have hclose : ']' ∈ brackets := by decide
  rw [Lexed, List.append_assoc, List.cons_append, List.append_assoc, List.singleton_append]
  obtain ⟨ls, e, hw, hlex⟩ | ⟨hlex, hkept⟩ := h.separate b (isSeparate_bracket hopen
    (Script.quoted quote k.toList ++ ']' :: rest))
  · refine Or.inl ⟨_, false, hw.quoted hk e false false, ?_⟩
    rw [hlex, lexemes_bracket e hopen, lexemes_quoted false hq, lexemes_bracket false hclose,
      String.ofList_toList, Option.map_map, Option.map_map, Option.map_map]
    simp only [Function.comp_def, List.append_assoc, List.cons_append, List.nil_append]
  · exact Or.inr ⟨hlex, isKept_member_eq_false hkept _⟩

theorem Spelled.selection (h : Spelled n cs) {p : Node} {ds : List Char} (hp : Spelled p ds) :
    Spelled (.memberExpression n p (.bool true)) (cs ++ '[' :: (ds ++ [']'])) := by
  refine .of_lexed rfl rfl fun b rest _ => ?_
  have hopen : '[' ∈ brackets := by decide
  have hclose : ']' ∈ brackets := by decide
  rw [Lexed, List.append_assoc, List.cons_append, List.append_assoc, List.singleton_append]
  obtain ⟨ls, e, hw, hlex⟩ | ⟨hlex, hkept⟩ := h.separate b (isSeparate_bracket hopen
    (ds ++ ']' :: rest))
  · rw [hlex, lexemes_bracket e hopen]
    obtain ⟨ls', f, hw', hlex'⟩ | ⟨hlex', hkept⟩ := hp.separate false
      (isSeparate_bracket hclose rest)
    · refine Or.inl ⟨_, false, hw.selection hw' e f, ?_⟩
      rw [hlex', lexemes_bracket f hclose, Option.map_map, Option.map_map, Option.map_map]
      simp only [Function.comp_def, List.append_assoc, List.cons_append, List.nil_append]
    · refine Or.inr ⟨by rw [hlex']; rfl, ?_⟩
      rw [Part.isKept, isKept, show isKept p = false from hkept, Bool.and_false]
  · exact Or.inr ⟨hlex, isKept_member_eq_false hkept _⟩

/-- The text of an expression that may stand in parentheses. -/
def LexedEnclosed (wrap : Bool) (n : Node) (cs : List Char) : Prop :=
  ∀ b rest, endsName rest = true →
    (∃ ls e, Written b (.enclosed wrap n) ls ∧
      lexemes b (cs ++ rest) = (lexemes e rest).map (ls ++ ·)) ∨
    lexemes b (cs ++ rest) = none ∧ (isSeparate rest = true → isKept n = false)

theorem Spelled.enclosed {s : String} (h : Spelled n s.toList) (wrap : Bool) :
    LexedEnclosed wrap n (wrapped wrap s).toList := by
  intro b rest hrest
  cases wrap with
  | false =>
    obtain ⟨ls, e, hw, -, hlex⟩ | ⟨hlex, hkept⟩ := h.lexed b rest hrest
    · exact Or.inl ⟨ls, e, .bare hw, hlex⟩
    · exact Or.inr ⟨hlex, fun hs => hkept (Or.inl hs)⟩
  | true =>
    have htext : (wrapped true s).toList ++ rest = '(' :: (s.toList ++ ')' :: rest) := by
      simp [wrapped]
    have hclose : ')' ∈ brackets := by decide
    rw [htext, lexemes_bracket b (by decide)]
    obtain ⟨ls, e, hw, hlex⟩ | ⟨hlex, hkept⟩ := h.separate false (isSeparate_bracket hclose rest)
    · refine Or.inl ⟨_, false, .parenthesised hw b e, ?_⟩
      rw [hlex, lexemes_bracket e hclose, Option.map_map, Option.map_map]
      simp only [Function.comp_def, List.append_assoc, List.cons_append, List.nil_append]
    · exact Or.inr ⟨by rw [hlex]; rfl, fun _ => hkept⟩

theorem spelled_call {as : List Node} {ds : List Char} (h : LexedEnclosed (wrapsCallee n) n cs)
    (has : LexedList .expression ')' as ds) : Spelled (.callExpression n as) (cs ++ '(' :: ds) := by
  refine .of_lexed rfl rfl fun b rest _ => ?_
  have hopen : '(' ∈ brackets := by decide
  have hseparate := isSeparate_bracket hopen (ds ++ rest)
  rw [Lexed, List.append_assoc, List.cons_append]
  obtain ⟨ls, e, hw, hlex⟩ | ⟨hlex, hkept⟩ := h b _ (endsName_of_isSeparate hseparate)
  · rw [hlex, lexemes_bracket e hopen]
    obtain ⟨c, ls', hw', hlex'⟩ | ⟨hlex', hkept⟩ := has false rest
    · refine Or.inl ⟨_, false, hw.call hw' e, ?_⟩
      rw [hlex', Option.map_map, Option.map_map]
      simp only [Function.comp_def, List.append_assoc, List.cons_append]
    · exact Or.inr ⟨by rw [hlex']; rfl, by rw [Part.isKept, isKept, hkept, Bool.and_false]⟩
  · exact Or.inr ⟨hlex, by rw [Part.isKept, isKept, hkept hseparate]; rfl⟩

/-- A text of an expression that is not tight: where a point follows, nothing is left to show. -/
theorem Spelled.of_loose (hsign : isNegative n = false) (hunsigned : isUnsigned n = false)
    (htight : isTight n = false) (h : ∀ b rest, endsName rest = true →
      (∃ ls e, Written b (.one .expression n) ls ∧
        lexemes b (cs ++ rest) = (lexemes e rest).map (ls ++ ·)) ∨
      lexemes b (cs ++ rest) = none ∧ (isSeparate rest = true → isKept n = false)) :
    Spelled n cs := by
  refine ⟨fun hn => (nomatch hsign.symm.trans hn), fun b rest hrest => ?_⟩
  obtain ⟨ls, e, hw, hlex⟩ | ⟨hlex, hkept⟩ := h b rest hrest
  · exact Or.inl ⟨ls, e, hw, Or.inr hunsigned, hlex⟩
  · refine Or.inr ⟨hlex, ?_⟩
    rintro (hs | ⟨ht, -⟩)
    · exact hkept hs
    · cases htight.symm.trans ht

theorem Spelled.assignment (h : Spelled n cs) (htarget : isTarget n = true) {r : Node}
    {ds : List Char} (hr : Spelled r ds) :
    Spelled (.assignmentExpression (.str "=") n r) (cs ++ ' ' :: '=' :: ' ' :: ds) := by
  refine .of_loose rfl rfl rfl fun b rest hrest => ?_
  rw [List.append_assoc]
  obtain ⟨ls, e, hw, hlex⟩ | ⟨hlex, hkept⟩ :=
    h.separate b (show isSeparate (' ' :: '=' :: ' ' :: ds ++ rest) = true from rfl)
  · simp only [List.cons_append] at hlex ⊢
    rw [hlex, lexemes_space e rfl rfl, lexemes_mark e (by decide) rfl, lexemes_space false rfl rfl]
    obtain ⟨ls', f, hw', -, hlex'⟩ | ⟨hlex', hkept⟩ := hr.lexed false rest hrest
    · refine Or.inl ⟨_, f, hw.assignment htarget hw' e, ?_⟩
      rw [hlex', Option.map_map, Option.map_map]
      simp only [Function.comp_def, List.append_assoc, List.cons_append]
    · refine Or.inr ⟨by rw [hlex']; rfl, fun hs => ?_⟩
      rw [isKept, hkept (Or.inl hs), Bool.and_false]
  · exact Or.inr ⟨hlex, fun _ => by rw [isKept, show isKept n = false from hkept]; rfl⟩

theorem spelled_function {ks : List String} {ds : List Char}
    (hks : ∀ k ∈ ks, isBindable k = true)
    (hps : LexedList .expression ')' (ks.map fun k => .identifier (.str k)) cs)
    (h : LexedEnclosed (wrapsBody n) n ds) :
    Spelled (.arrowFunction (ks.map fun k => .identifier (.str k)) n)
      ('(' :: (cs ++ ' ' :: '=' :: '>' :: ' ' :: ds)) := by
  refine .of_loose rfl rfl rfl fun b rest hrest => ?_
  have hnames : areKept (ks.map fun k => Node.identifier (.str k)) = true :=
    areKept_iff.mpr fun n hn => by
      obtain ⟨k, -, rfl⟩ := List.mem_map.mp hn
      rfl
  rw [List.cons_append, lexemes_bracket b (by decide), List.append_assoc]
  obtain ⟨c, ls, hw, hlex⟩ | ⟨-, hkept⟩ := hps false (' ' :: '=' :: '>' :: ' ' :: ds ++ rest)
  · simp only [List.cons_append] at hlex ⊢
    rw [hlex, lexemes_space false rfl rfl, lexemes_arrow, lexemes_space false rfl rfl]
    obtain ⟨ls', f, hw', hlex'⟩ | ⟨hlex', hkept⟩ := h false rest hrest
    · refine Or.inl ⟨_, f, hw.function hks hw' b, ?_⟩
      rw [hlex', Option.map_map, Option.map_map, Option.map_map]
      simp only [Function.comp_def, List.append_assoc, List.cons_append]
    · refine Or.inr ⟨by rw [hlex']; rfl, fun hs => ?_⟩
      rw [isKept, hkept hs]
      rfl
  · cases hnames.symm.trans hkept

end Componentry.Script
