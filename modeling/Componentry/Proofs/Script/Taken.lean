import Componentry.Proofs.Script.Written

/-!
# What readers have taken

A reader that succeeds has taken certain lexemes: a mark, a name that can be bound, a list of
parameters, the head of a function. So where a function begins, an operand that is read instead is
no more than a name.
-/

namespace Componentry.Script

variable {n m : Node} {ls tail : List Lexeme}

theorem behindMark?_eq_some {c : Char} {rest : List Lexeme} :
    behindMark? c ls = some rest ↔ ∃ b, ls = ⟨.mark c, b⟩ :: rest := by
  constructor
  · intro h
    unfold behindMark? at h
    split at h
    · split_ifs at h with hc
      cases h
      exact ⟨_, by rw [hc]⟩
    · cases h
  · rintro ⟨b, rfl⟩
    exact behindMark?_mark c b rest

theorem primary_parenthesis {expr : Reader Node} {b : Bool} {rest : List Lexeme}
    (h : primary expr (⟨.mark '(', b⟩ :: ls) = some (m, rest)) :
    ∃ d, expr ls = some (m, ⟨.mark ')', d⟩ :: rest) := by
  rw [primary] at h
  simp only [Option.bind_eq_bind, Option.bind_eq_some_iff, Prod.exists, Option.pure_def,
    Option.some.injEq, Prod.mk.injEq, behindMark?_eq_some] at h
  obtain ⟨e, r, he, r', ⟨d, rfl⟩, rfl, rfl⟩ := h
  exact ⟨d, he⟩

theorem operand_eq_some {expr : Reader Node} {t : Token} (ht : operator? t = none) {b : Bool}
    {rest : List Lexeme} (h : operand expr (⟨t, b⟩ :: ls) = some (m, rest)) :
    ∃ n r, primary expr (⟨t, b⟩ :: ls) = some (n, r) ∧
      suffixed expr (r.length + 1) n r = some (m, rest) := by
  simpa only [operand, ht, Option.bind_eq_bind, Option.bind_eq_some_iff, Prod.exists] using h

theorem primary_word {s : String} (hs : operandOfWord? s = some n) (expr : Reader Node) (b : Bool)
    (tail : List Lexeme) : primary expr (⟨.word s, b⟩ :: tail) = some (n, tail) := by
  rw [primary, hs]
  rfl

theorem expression_word {s : String} (hs : operandOfWord? s = some n)
    (hop : operator? (.word s) = none) (htail : Stops Lexeme.endsExpression tail) (depth : Nat)
    (b : Bool) : expression (depth + 1) (⟨.word s, b⟩ :: tail) = some (n, tail) := by
  refine expressionOver_operand (arrowHead?_word s b fun l hl harrow => ?_) ?_ htail
  · have hl : l.token.extends = false := htail l hl
    rw [harrow] at hl
    cases hl
  · rw [operand_primary hop b (primary_word hs _ b tail), suffixed_stop htail]

theorem parameter_eq_some {rest : List Lexeme} (h : parameter ls = some (m, rest)) :
    ∃ s b, isBindable s = true ∧ ls = ⟨.word s, b⟩ :: rest ∧ m = .identifier (.str s) := by
  unfold parameter at h
  split at h
  · split_ifs at h with hs
    cases h
    exact ⟨_, _, hs, rfl, rfl⟩
  · cases h

theorem parameters_cases {ps : List Node} {rest : List Lexeme}
    (h : parameters ls = some (ps, rest)) : (∃ b, ls = ⟨.mark ')', b⟩ :: rest) ∨
      ∃ s b c d more, isBindable s = true ∧ ls = ⟨.word s, b⟩ :: ⟨.mark c, d⟩ :: more ∧
        (c = ',' ∨ c = ')' ∧ more = rest) := by
  rw [parameters, separated] at h
  split at h
  · next hclose =>
    cases h
    exact Or.inl (behindMark?_eq_some.mp hclose)
  · simp only [Option.bind_eq_bind, Option.bind_eq_some_iff, Prod.exists, Option.pure_def] at h
    obtain ⟨p, r, hp, h⟩ := h
    obtain ⟨s, b, hs, rfl, -⟩ := parameter_eq_some hp
    refine Or.inr ⟨s, b, ?_⟩
    split at h
    · next hcomma =>
      obtain ⟨d, rfl⟩ := behindMark?_eq_some.mp hcomma
      exact ⟨_, d, _, hs, rfl, Or.inl rfl⟩
    · obtain ⟨r, hclose, h⟩ := Option.bind_eq_some_iff.mp h
      cases h
      obtain ⟨d, rfl⟩ := behindMark?_eq_some.mp hclose
      exact ⟨_, d, _, hs, rfl, Or.inr ⟨rfl, rfl⟩⟩

theorem arrowHead?_cases {ps : List Node} {rest : List Lexeme}
    (h : arrowHead? ls = some (ps, rest)) :
    (∃ s b, isBindable s = true ∧ ls = ⟨.word s, b⟩ :: ⟨.arrow, false⟩ :: rest) ∨
      ∃ b more, ls = ⟨.mark '(', b⟩ :: more ∧
        parameters more = some (ps, ⟨.arrow, false⟩ :: rest) := by
  simp only [arrowHead?] at h
  cases hopen : behindMark? '(' ls with
  | some more =>
    rw [hopen] at h
    obtain ⟨b, rfl⟩ := behindMark?_eq_some.mp hopen
    split at h <;> cases h
    exact Or.inr ⟨b, _, rfl, ‹_›⟩
  | none =>
    rw [hopen] at h
    split at h <;> cases h
    next hps =>
    obtain ⟨⟨p, r⟩, hp, heq⟩ := Option.map_eq_some_iff.mp hps
    cases heq
    obtain ⟨s, b, hs, rfl, -⟩ := parameter_eq_some hp
    exact Or.inl ⟨s, b, hs, rfl⟩

/-- Where a function begins, no more than a name can be read as an operand. -/
theorem operand_of_arrowHead {depth : Nat} {ps : List Node} {rest r : List Lexeme}
    (h : arrowHead? ls = some (ps, rest)) (ho : operand (expression depth) ls = some (m, r)) :
    (∃ s, m = .identifier (.str s)) ∧ r = ⟨.arrow, false⟩ :: rest := by
  have hsuffixed : ∀ (fuel : Nat) (n : Node), suffixed (expression depth) (fuel + 1) n
      (⟨.arrow, false⟩ :: rest) = some (n, ⟨.arrow, false⟩ :: rest) := fun _ _ => rfl
  obtain ⟨s, b, hs, rfl⟩ | ⟨b, more, rfl, hps⟩ := arrowHead?_cases h
  · obtain ⟨hword, hop⟩ := word_of_isBindable hs
    rw [operand_primary hop b (primary_word hword _ b _), List.length_cons, hsuffixed] at ho
    cases ho
    exact ⟨⟨s, rfl⟩, rfl⟩
  · obtain ⟨n, r', hprim, ho⟩ := operand_eq_some rfl ho
    obtain ⟨d, he⟩ := primary_parenthesis hprim
    cases depth with
    | zero => cases he
    | succ depth =>
      obtain ⟨c, rfl⟩ | ⟨s, c, e, f, more, hs, rfl, hend⟩ := parameters_cases hps
      · rw [expression_mark (by decide)] at he
        cases he
      · obtain ⟨hword, hop⟩ := word_of_isBindable hs
        have hstop : Stops Lexeme.endsExpression (⟨.mark e, f⟩ :: more) := by
          rcases hend with rfl | ⟨rfl, -⟩ <;> exact .mark rfl
        rw [expression_word hword hop hstop] at he
        obtain rfl | ⟨rfl, rfl⟩ := hend
        · cases he
        · cases he
          rw [List.length_cons, hsuffixed] at ho
          cases ho
          exact ⟨⟨s, rfl⟩, rfl⟩

end Componentry.Script
