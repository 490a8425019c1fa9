import Componentry.Proofs.Script.Signed

/-!
# Blocks that are read back

The lexemes of a block are read as its statements exactly where these stay apart. A statement ends
at its semicolon, or, where the style has none, at the end of its line unless the next line goes on
with it.
-/

namespace Componentry.Script

variable {n : Node} {es : List Node} {ls rest : List Lexeme} {terminated : Bool}

/-- What stands behind a statement. -/
def terminatorLexemes (terminated c : Bool) : List Lexeme :=
  if terminated then [⟨.mark ';', c⟩] else []

/-- The lexemes of statements behind the opening brace of their block. Each statement begins a
line. -/
inductive WrittenBlock (terminated : Bool) : List Node → List Lexeme → Prop
  | nil (b : Bool) : WrittenBlock terminated [] [⟨.mark '\x7d', b⟩]
  | cons {e : Node} {es : List Node} {ls ls' : List Lexeme}
    (he : Written true (.one .expression e) ls) (hes : WrittenBlock terminated es ls') (c : Bool) :
    WrittenBlock terminated (e :: es) (ls ++ (terminatorLexemes terminated c ++ ls'))

theorem leading_mark {c : Char} (h : leading n = some (.mark c)) :
    c ∈ ['(', '[', '\x7b', '!', '-', '+', '~'] := by
  fun_induction leading n with
  | case4 i =>
    split_ifs at h <;> cases h
    decide
  | case7 | case8 | case9 | case13 => cases h; decide
  | case10 o p c ih => exact ih h
  | case11 operator a =>
    unfold operatorToken? at h
    split at h <;> cases h <;> decide
  | case12 operator l r ih => exact ih h
  | case14 c as hw ih => exact ih h
  | _ => cases h

/-- Whether an expression does not go on with the line before it. -/
def beginsLine (e : Node) : Bool := (leading e).all fun t => !t.continues

theorem staysApart_cons (e : Node) (es : List Node) : staysApart terminated (e :: es) =
    (isKept e && leading e ≠ some (.mark '\x7b') && (terminated || es.head?.all beginsLine) &&
      staysApart terminated es) := by
  cases es with
  | nil => simp [staysApart]
  | cons e' es => cases terminated <;> simp [staysApart, beginsLine]; grind

theorem WrittenBlock.eq_cons (h : WrittenBlock terminated es ls) : ∃ t b more,
    ls = ⟨t, b⟩ :: more ∧
      (es = [] ∧ t = .mark '\x7d' ∨ ∃ e, es.head? = some e ∧ b = true ∧ leading e = some t) := by
  cases h with
  | nil b => exact ⟨_, b, [], rfl, Or.inl ⟨rfl, rfl⟩⟩
  | cons he hes c =>
    obtain ⟨t, more, rfl, ht⟩ := he.heads
    exact ⟨t, true, _, rfl, Or.inr ⟨_, rfl, rfl, ht⟩⟩

/-- Where a statement ends, given the statements behind it. -/
theorem WrittenBlock.endOfStatement? (h : WrittenBlock terminated es ls) (c : Bool)
    (tail : List Lexeme) :
    Script.endOfStatement? (terminatorLexemes terminated c ++ (ls ++ tail)) =
      if terminated || es.head?.all beginsLine then some (ls ++ tail) else none := by
  cases terminated with
  | true => rfl
  | false =>
    obtain ⟨t, b, more, rfl, ⟨rfl, rfl⟩ | ⟨e, he, rfl, ht⟩⟩ := h.eq_cons
    · rfl
    · have hsemicolon : t ≠ .mark ';' := by
        rintro rfl
        exact absurd (leading_mark ht) (by decide)
      have hbrace : t ≠ .mark '\x7d' := by
        rintro rfl
        exact absurd (leading_mark ht) (by decide)
      rw [he, Option.all_some, beginsLine, ht, Option.all_some]
      simp only [terminatorLexemes, Bool.false_eq_true, if_false, List.nil_append, List.cons_append,
        Script.endOfStatement?, if_neg hsemicolon, hbrace, false_or, true_and, Bool.false_or,
        Bool.not_eq_true']

theorem WrittenBlock.stops (h : WrittenBlock terminated es ls) (c : Bool) (tail : List Lexeme)
    (hes : (terminated || es.head?.all beginsLine) = true) :
    Stops Lexeme.endsExpression (terminatorLexemes terminated c ++ (ls ++ tail)) := by
  cases terminated with
  | true => exact .mark rfl
  | false =>
    obtain ⟨t, b, more, rfl, ⟨rfl, rfl⟩ | ⟨e, he, rfl, ht⟩⟩ := h.eq_cons
    · exact .mark rfl
    · have hsemicolon : t ≠ .mark ';' := by
        rintro rfl
        exact absurd (leading_mark ht) (by decide)
      rw [Bool.false_or, he, Option.all_some, beginsLine, ht, Option.all_some,
        Bool.not_eq_true'] at hes
      exact (Stops.cons (Or.inr ⟨rfl, hes, hsemicolon⟩)).statement

theorem body_eq_some {expr : Reader Node} {block : Node} : body expr ls = some (block, rest) ↔
    ∃ ns, repeated (statement expr) '\x7d' (ls.length + 1) ls = some (ns, rest) ∧
      block = .blockStatement ns := by
  simp only [body, Option.bind_eq_bind, Option.bind_eq_some_iff, Prod.exists, Option.pure_def,
    Option.some.injEq, Prod.mk.injEq]
  constructor
  · rintro ⟨ns, r, h, rfl, rfl⟩
    exact ⟨ns, h, rfl⟩
  · rintro ⟨ns, h, rfl⟩
    exact ⟨ns, rest, h, rfl, rfl⟩

theorem expression_return (depth : Nat) (b : Bool) (ls : List Lexeme) :
    expression depth (⟨.word "return", b⟩ :: ls) = none := by
  cases h : expression depth (⟨.word "return", b⟩ :: ls) with
  | none => rfl
  | some r =>
    obtain ⟨m, r⟩ := r
    obtain ⟨d, hread⟩ := readsAt_of_expression h
    have hhead : arrowHead? (⟨.word "return", b⟩ :: ls) = none := rfl
    have hoperand : operand (expression d) (⟨.word "return", b⟩ :: ls) = none := rfl
    cases hread with
    | block hsome | function hsome => cases hhead.symm.trans hsome
    | assignment _ hsome | operand _ hsome => cases hoperand.symm.trans hsome

/-- An expression that is read as a statement. -/
theorem statement_eq_some {depth : Nat} {t : Token} {b : Bool} {e : Node} :
    statement (expression depth) (⟨t, b⟩ :: ls) = some (.expressionStatement e, rest) ↔
      t ≠ .mark '\x7b' ∧ ∃ r, expression depth (⟨t, b⟩ :: ls) = some (e, r) ∧
        endOfStatement? r = some rest := by
  by_cases hbrace : t = .mark '\x7b'
  · simp [statement, hbrace]
  by_cases hreturn : t = .word "return"
  · subst hreturn
    rw [expression_return]
    constructor
    · intro h
      rw [statement, if_neg hbrace, if_pos rfl] at h
      split_ifs at h
      · simp only [Option.bind_eq_bind, Option.bind_eq_some_iff, Prod.exists, Option.pure_def] at h
        obtain ⟨e', r, -, r', -, h⟩ := h
        cases h
      · simp only [Option.bind_eq_bind, Option.bind_eq_some_iff, Option.pure_def] at h
        obtain ⟨r, -, h⟩ := h
        cases h
    · rintro ⟨-, r, h, -⟩
      cases h
  · simp only [statement, if_neg hbrace, if_neg hreturn, Option.bind_eq_bind,
      Option.bind_eq_some_iff, Prod.exists, Option.pure_def, Option.some.injEq, Prod.mk.injEq,
      Node.expressionStatement.injEq]
    constructor
    · rintro ⟨e', r, he, r', hend, rfl, rfl⟩
      exact ⟨hbrace, r, he, hend⟩
    · rintro ⟨-, r, he, hend⟩
      exact ⟨e, r, he, rest, hend, rfl, rfl⟩

theorem repeated_cons {α : Type} {item : Reader α} {close : Char} {fuel : Nat} {a : α} {as : List α}
    (h : repeated item close fuel ls = some (a :: as, rest)) :
    ∃ f r, fuel = f + 1 ∧ item ls = some (a, r) ∧ repeated item close f r = some (as, rest) := by
  cases fuel with
  | zero => cases h
  | succ f =>
    rw [repeated] at h
    split at h
    · cases h
    · simp only [Option.bind_eq_bind, Option.bind_eq_some_iff, Prod.exists, Option.pure_def,
        Option.some.injEq, Prod.mk.injEq] at h
      obtain ⟨a', r, hitem, as', r', hrest, heq, rfl⟩ := h
      cases heq
      exact ⟨f, r, rfl, hitem, hrest⟩

def statements (es : List Node) : List Node := es.map fun e => .expressionStatement (regrouped e)

theorem repeated_of_staysApart (h : WrittenBlock terminated es ls)
    (hes : staysApart terminated es = true) (depth fuel : Nat) (tail : List Lexeme)
    (hd : ls.length ≤ depth) (hf : ls.length ≤ fuel) :
    repeated (statement (expression depth)) '\x7d' fuel (ls ++ tail) =
      some (statements es, tail) := by
  induction h generalizing fuel with
  | nil b =>
    obtain ⟨fuel, rfl⟩ : ∃ k, fuel = k + 1 := Nat.exists_eq_add_of_le' hf
    exact repeated_close _ _ _ _ _
  | @cons e es ls ls' he hrest c ih =>
    rw [staysApart_cons, Bool.and_eq_true, Bool.and_eq_true, Bool.and_eq_true,
      decide_eq_true_eq] at hes
    obtain ⟨⟨⟨hkept, hbrace⟩, hline⟩, hes⟩ := hes
    rw [List.length_append, List.length_append] at hd hf
    have hread := (he.isReadBack hkept).readsBack depth _ (by omega) (hrest.stops c tail hline)
    have hend := hrest.endOfStatement? c tail
    rw [if_pos hline] at hend
    obtain ⟨t, more, rfl, ht⟩ := he.heads
    have hclose : t ≠ .mark '\x7d' := by
      rintro rfl
      exact absurd (leading_mark ht) (by decide)
    have hopen : t ≠ .mark '\x7b' := by
      rintro rfl
      exact hbrace ht
    rw [List.length_cons] at hf
    obtain ⟨fuel, rfl⟩ : ∃ k, fuel = k + 1 := Nat.exists_eq_add_of_le' (by omega)
    rw [List.append_assoc, List.append_assoc, List.cons_append]
    exact repeated_next hclose (statement_eq_some.mpr ⟨hopen, _, hread, hend⟩)
      (ih hes fuel (by omega) (by omega))

theorem staysApart_of_repeated (h : WrittenBlock terminated es ls) {depth fuel : Nat}
    {tail : List Lexeme} (hread : repeated (statement (expression depth)) '\x7d' fuel (ls ++ tail) =
      some (statements es, rest)) : staysApart terminated es = true ∧ rest = tail := by
  induction h generalizing fuel with
  | nil b =>
    cases fuel with
    | zero => cases hread
    | succ fuel =>
      cases (repeated_close _ _ fuel b tail).symm.trans hread
      exact ⟨by simp [staysApart], rfl⟩
  | @cons e es ls ls' he hrest c ih =>
    obtain ⟨f, r, -, hitem, hread⟩ := repeated_cons hread
    rw [List.append_assoc, List.append_assoc] at hitem
    obtain ⟨t, more, hls, ht⟩ := he.heads
    rw [hls, List.cons_append] at hitem
    obtain ⟨hopen, r', hexpr, hend⟩ := statement_eq_some.mp hitem
    rw [← List.cons_append, ← hls] at hexpr
    obtain ⟨hkept, rfl⟩ := he.isRecovered.expression depth _ _ hexpr
    rw [hrest.endOfStatement?] at hend
    split_ifs at hend with hline
    cases hend
    obtain ⟨hes, rfl⟩ := ih hread
    refine ⟨?_, rfl⟩
    rw [staysApart_cons, hkept, hline, hes, decide_eq_true]
    · rfl
    · rintro hbrace
      exact hopen (Option.some.inj (ht.symm.trans hbrace))

end Componentry.Script
