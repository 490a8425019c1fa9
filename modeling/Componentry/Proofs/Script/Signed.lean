import Componentry.Proofs.Script.Operated

/-!
# The lexemes of operations

A word is written before its operand with a space between them. A sign is written right before its
operand, so an operation has no lexemes where the operand goes on with the sign; where the operand
keeps its nesting, that is only a negative number behind a minus.
-/

namespace Componentry.Script

variable {n : Node} {cs rest : List Char}

/-- The tokens that can go on with a sign. -/
def signTokens : List Token := [.mark '-', .mark '+', .mark '=', .arrow]

theorem leading_of_isTight {t : Token} (h : isTight n = true) (ht : leading n = some t) :
    t ∉ signTokens := by
  fun_induction leading n with
  | case4 i =>
    have hi : ¬ i < 0 := fun hi => by simp [isTight, isNegative, hi] at h
    rw [if_neg hi] at ht
    cases ht
    simp [signTokens]
  | case10 o p c ih => exact ih h ht
  | case11 | case12 | case15 => first | cases h | cases ht
  | case14 c as hw ih =>
    rw [isTight, Bool.eq_false_iff.mpr hw] at h
    exact ih h ht
  | _ =>
    cases ht
    simp [signTokens]

/-- Of what is kept and has no parentheses as an operand, only a negative number begins with a
sign. -/
theorem isNegative_of_leading {t : Token} (hn : isKept n = true) (hw : wrapsOperand n = false)
    (h : leading n = some t) (ht : t ∈ signTokens) : isNegative n = true ∧ t = .mark '-' := by
  have htight : ¬ isTight n = true := fun htight => leading_of_isTight htight h ht
  cases n with
  | memberExpression o p c => exact absurd (isTight_of_isKept hn).2 htight
  | callExpression c as =>
    rw [isKept, Bool.and_eq_true, Bool.and_eq_true] at hn
    exact absurd hn.1.2 htight
  | numericLiteral v =>
    cases v with
    | int i =>
      have hneg : isNegative (.numericLiteral (.int i)) = true := by
        rw [← Bool.not_eq_false]
        exact fun hi => htight (congrArg (!·) hi)
      have hi : i < 0 := of_decide_eq_true hneg
      rw [leading, if_pos hi] at h
      cases h
      exact ⟨hneg, rfl⟩
    | _ => cases h
  | _ => first | exact absurd rfl htight | cases hw

theorem token_of_sign {c : Char} (hc : c ∈ ['-', '+', '=']) {b : Bool} {l : Lexeme}
    {ls : List Lexeme} (h : lexemes b (c :: cs) = some (l :: ls)) :
    l.token = .mark c ∨ l.token = .arrow := by
  have hplain : endsLine c = false ∧ isSpace c = false ∧ beginsName c = false ∧
      c.isDigit = false ∧ (c = '"' || c = '\'') = false := by
    simp only [List.mem_cons, List.not_mem_nil, or_false] at hc
    rcases hc with rfl | rfl | rfl <;> decide
  obtain ⟨hl, hs, hb, hd, hq⟩ := hplain
  cases htoken : token? (c :: cs) with
  | none => cases (lexemes_eq_none b hl hs htoken).symm.trans h
  | some r =>
    obtain ⟨t, rest⟩ := r
    rw [lexemes_token b hl hs htoken] at h
    obtain ⟨more, -, heq⟩ := Option.map_eq_some_iff.mp h
    cases heq
    simp only [token?, hb, hd, hq, Bool.false_eq_true, if_false, mark?] at htoken
    split_ifs at htoken <;> cases htoken
    · exact Or.inr rfl
    · exact Or.inl rfl

theorem LexedEnclosed.ne_nil {wrap : Bool} (h : LexedEnclosed wrap n cs) : cs ≠ [] := by
  rintro rfl
  obtain ⟨ls, e, hw, hlex⟩ | ⟨hlex, -⟩ := h false [] rfl
  · simp only [List.append_nil, lexemes_nil, Option.map_some, Option.some.injEq] at hlex
    exact hw.ne_nil hlex.symm
  · rw [List.append_nil, lexemes_nil] at hlex
    cases hlex

theorem lexemes_goesOn (b : Bool) {c : Char} (h : c ∈ marks) (hne : c ≠ '=')
    (hcs : cs.head?.any (goesOn c) = true) : lexemes b (c :: cs) = none := by
  obtain ⟨hl, hs, hb, hd, hq⟩ := mark_separates h
  apply lexemes_eq_none b hl hs
  have harrow : (c = '=' && cs.head? = some '>') = false := by
    rw [decide_eq_false hne, Bool.false_and]
  simp only [token?, mark?, hb, hd, hq, harrow, hcs, Bool.false_eq_true, if_false, if_true]

theorem mem_of_goesOn {c d : Char} (hc : c ∈ ['!', '-', '+', '~']) (h : goesOn c d = true) :
    d ∈ ['-', '+', '='] ∧ (d = '-' → c = '-') := by
  simp only [List.mem_cons, List.not_mem_nil, or_false] at hc
  rcases hc with rfl | rfl | rfl | rfl
  · obtain rfl : d = '=' := of_decide_eq_true h
    decide
  · simp only [goesOn, Bool.or_eq_true, decide_eq_true_eq] at h
    rcases h with rfl | rfl <;> decide
  · simp only [goesOn, Bool.or_eq_true, decide_eq_true_eq] at h
    rcases h with rfl | rfl <;> decide
  · cases h

/-- The operand of a sign goes on with it only if it is a negative number. -/
theorem not_goesOn_of_isKept {s : String} (h : Spelled n s.toList) (hn : isKept n = true) {c : Char}
    (hc : c ∈ ['!', '-', '+', '~']) (hsigns : c = '-' → isNegative n = false) :
    (wrapped (wrapsOperand n) s).toList.head?.any (goesOn c) = false := by
  have hlexed := h.enclosed (wrapsOperand n)
  obtain ⟨d, ds, hds⟩ := List.exists_cons_of_ne_nil hlexed.ne_nil
  rw [hds] at hlexed ⊢
  rw [List.head?_cons, Option.any_some, ← Bool.not_eq_true]
  intro hgoes
  obtain ⟨hd, hminus⟩ := mem_of_goesOn hc hgoes
  obtain ⟨ls, e, hw, hlex⟩ | ⟨-, hkept⟩ := hlexed false [] rfl
  · obtain ⟨t, more, rfl, ht⟩ := hw.heads
    rw [List.append_nil, lexemes_nil, Option.map_some, List.append_nil] at hlex
    have htoken : t = .mark d ∨ t = .arrow := token_of_sign hd hlex
    have hsign : t ∈ signTokens := by
      simp only [List.mem_cons, List.not_mem_nil, or_false] at hd
      rcases htoken with rfl | rfl
      · rcases hd with rfl | rfl | rfl <;> decide
      · decide
    cases hwrap : wrapsOperand n <;> rw [hwrap] at ht
    · obtain ⟨hneg, rfl⟩ := isNegative_of_leading hn hwrap ht hsign
      rcases htoken with heq | heq <;> cases heq
      cases (hsigns (hminus rfl)).symm.trans hneg
    · rw [show t = .mark '(' from ht] at hsign
      revert hsign
      decide
  · cases hn.symm.trans (hkept rfl)

theorem Spelled.sign_operation {s operator : String} {c : Char} (h : Spelled n s.toList)
    (ht : operatorToken? operator = some (.mark c)) (hc : c ∈ ['!', '-', '+', '~'])
    (hoperator : operator = "-" ↔ c = '-') :
    Spelled (.unaryExpression (.str operator) n) (c :: (wrapped (wrapsOperand n) s).toList) := by
  refine .of_loose rfl rfl rfl fun b rest hrest => ?_
  have hmark : c ∈ marks ∧ c ≠ '=' := by
    simp only [List.mem_cons, List.not_mem_nil, or_false] at hc
    rcases hc with rfl | rfl | rfl | rfl <;> decide
  have hlexed := h.enclosed (wrapsOperand n)
  obtain ⟨d, ds, hds⟩ := List.exists_cons_of_ne_nil hlexed.ne_nil
  rw [List.cons_append]
  cases hgoes : goesOn c d with
  | true =>
    refine Or.inr ⟨lexemes_goesOn b hmark.1 hmark.2 (by rw [hds]; exact hgoes), fun _ => ?_⟩
    rw [← Bool.not_eq_true, isKept, Bool.and_eq_true, Bool.not_eq_true', Bool.and_eq_false_iff]
    rintro ⟨hn, hsigns⟩
    have hnot := not_goesOn_of_isKept h hn hc fun hminus =>
      hsigns.resolve_left fun hne => of_decide_eq_false hne (hoperator.mpr hminus)
    rw [hds, List.head?_cons, Option.any_some, hgoes] at hnot
    cases hnot
  | false =>
    rw [lexemes_mark b hmark.1 (by rw [hds]; exact hgoes)]
    obtain ⟨ls, e, hw, hlex⟩ | ⟨hlex, hkept⟩ := hlexed false rest hrest
    · refine Or.inl ⟨_, e, hw.operation ht (fun hminus => ?_) b, ?_⟩
      · rw [← Bool.not_eq_true]
        intro hneg
        have hwrap : wrapsOperand n = false := by cases n <;> first | rfl | cases hneg
        have hhead := h.sign hneg
        rw [hwrap, show wrapped false s = s from rfl] at hds
        rw [hds] at hhead
        cases hhead
        rw [hoperator.mp hminus] at hgoes
        cases hgoes
      · rw [hlex, Option.map_map]
        rfl
    · refine Or.inr ⟨by rw [hlex]; rfl, fun hs => ?_⟩
      rw [isKept, hkept hs]
      rfl

theorem Spelled.word_operation {s operator : String} (h : Spelled n s.toList)
    (ht : operatorToken? operator = some (.word operator)) (hne : operator ≠ "-")
    (hb : operator.toList.head?.any beginsName = true)
    (hc : ∀ c ∈ operator.toList, continuesName c = true) :
    Spelled (.unaryExpression (.str operator) n)
      (operator.toList ++ ' ' :: (wrapped (wrapsOperand n) s).toList) := by
  refine .of_loose rfl rfl rfl fun b rest hrest => ?_
  rw [List.append_assoc, List.cons_append, lexemes_word b hb hc rfl, lexemes_space false rfl rfl,
    String.ofList_toList]
  obtain ⟨ls, e, hw, hlex⟩ | ⟨hlex, hkept⟩ := h.enclosed (wrapsOperand n) false rest hrest
  · refine Or.inl ⟨_, e, hw.operation ht (fun heq => absurd heq hne) b, ?_⟩
    rw [hlex, Option.map_map]
    rfl
  · refine Or.inr ⟨by rw [hlex]; rfl, fun hs => ?_⟩
    rw [isKept, hkept hs]
    rfl

theorem Spelled.operation {s operator : String} {t : Token} (h : Spelled n s.toList)
    (ht : operatorToken? operator = some t) : Spelled (.unaryExpression (.str operator) n)
      (operator ++ (if Text.isWord operator then " " else "") ++
        wrapped (wrapsOperand n) s).toList := by
  have hsign : ∀ {operator : String} (c : Char), Text.isWord operator = false →
      operator.toList = [c] → (operator ++ (if Text.isWord operator then " " else "") ++
        wrapped (wrapsOperand n) s).toList = c :: (wrapped (wrapsOperand n) s).toList :=
    fun c hword htext => by rw [hword]; simp [htext]
  have hname : ∀ {operator : String}, Text.isWord operator = true →
      (operator ++ (if Text.isWord operator then " " else "") ++
        wrapped (wrapsOperand n) s).toList =
        operator.toList ++ ' ' :: (wrapped (wrapsOperand n) s).toList :=
    fun hword => by rw [hword]; simp
  unfold operatorToken? at ht
  split at ht <;> cases ht
  · rw [hsign '!' (by decide +kernel) rfl]
    exact h.sign_operation rfl (by decide) (by decide)
  · rw [hsign '-' (by decide +kernel) rfl]
    exact h.sign_operation rfl (by decide) (by decide)
  · rw [hsign '+' (by decide +kernel) rfl]
    exact h.sign_operation rfl (by decide) (by decide)
  · rw [hsign '~' (by decide +kernel) rfl]
    exact h.sign_operation rfl (by decide) (by decide)
  · rw [hname (by decide +kernel)]
    exact h.word_operation rfl (by decide) rfl (List.all_eq_true.mp (by decide))
  · rw [hname (by decide +kernel)]
    exact h.word_operation rfl (by decide) rfl (List.all_eq_true.mp (by decide))
  · rw [hname (by decide +kernel)]
    exact h.word_operation rfl (by decide) rfl (List.all_eq_true.mp (by decide))

end Componentry.Script
