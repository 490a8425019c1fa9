import Componentry.Proofs.Script.Kept

/-!
# What an expression is read to begin with

An expression is read as a function, an assignment or an operand, and an operand begins with what it
is read from. So the lexemes of a part say what any expression that begins with them begins with.
-/

namespace Componentry.Script

variable {n m : Node} {ls rest : List Lexeme}

theorem suffixed_begins {expr : Reader Node} {fuel : Nat}
    (h : suffixed expr fuel n ls = some (m, rest)) : Begins n m := by
  induction fuel generalizing n ls with
  | zero => cases h
  | succ fuel ih =>
    unfold suffixed at h
    split at h
    · exact (Begins.refl.member _ _).trans (ih h)
    · cases h
    · simp only [Option.bind_eq_bind, Option.bind_eq_some_iff, Prod.exists] at h
      obtain ⟨k, r, -, r', -, h⟩ := h
      exact (begins_selected n k).trans (ih h)
    · simp only [Option.bind_eq_bind, Option.bind_eq_some_iff, Prod.exists] at h
      obtain ⟨as, r, -, h⟩ := h
      exact (Begins.refl.call as).trans (ih h)
    · cases h
      exact .refl

/-- Where no access and no call is read, nothing is. -/
theorem suffixed_self {expr : Reader Node} {fuel : Nat}
    (h : suffixed expr fuel n ls = some (n, rest)) : rest = ls := by
  cases fuel with
  | zero => cases h
  | succ fuel =>
    unfold suffixed at h
    split at h
    · have := (suffixed_begins h).suffixes_le
      rw [suffixes] at this
      omega
    · cases h
    · simp only [Option.bind_eq_bind, Option.bind_eq_some_iff, Prod.exists] at h
      obtain ⟨k, r, -, r', -, h⟩ := h
      have := (suffixed_begins h).suffixes_le
      rw [suffixes_selected] at this
      omega
    · simp only [Option.bind_eq_bind, Option.bind_eq_some_iff, Prod.exists] at h
      obtain ⟨as, r, -, h⟩ := h
      have := (suffixed_begins h).suffixes_le
      rw [suffixes] at this
      omega
    · cases h
      rfl

/-- The ways in which an expression is read. -/
inductive ReadsAt (depth : Nat) (ls : List Lexeme) : Node → List Lexeme → Prop
  | block {ps : List Node} {b : Node} {r inside rest : List Lexeme}
    (hhead : arrowHead? ls = some (ps, r)) (hbrace : behindMark? '\x7b' r = some inside)
    (hbody : body (expression depth) inside = some (b, rest)) :
    ReadsAt depth ls (.arrowFunction ps b) rest
  | function {ps : List Node} {b : Node} {r rest : List Lexeme}
    (hhead : arrowHead? ls = some (ps, r)) (hbrace : behindMark? '\x7b' r = none)
    (hbody : expression depth r = some (b, rest)) : ReadsAt depth ls (.arrowFunction ps b) rest
  | assignment {left right : Node} {b : Bool} {more rest : List Lexeme}
    (hhead : arrowHead? ls = none)
    (hleft : operand (expression depth) ls = some (left, ⟨.mark '=', b⟩ :: more))
    (htarget : isTarget left = true) (hright : expression depth more = some (right, rest)) :
    ReadsAt depth ls (.assignmentExpression (.str "=") left right) rest
  | operand {m : Node} {rest : List Lexeme} (hhead : arrowHead? ls = none)
    (h : operand (expression depth) ls = some (m, rest)) : ReadsAt depth ls m rest

theorem readsAt_of_expression {depth : Nat} (h : expression depth ls = some (m, rest)) :
    ∃ d, ReadsAt d ls m rest := by
  cases depth with
  | zero => cases h
  | succ d =>
    refine ⟨d, ?_⟩
    rw [expression, expressionOver] at h
    split at h
    · next ps r hhead =>
      split at h
      · next hbrace =>
        simp only [Option.bind_eq_bind, Option.bind_eq_some_iff, Prod.exists, Option.pure_def] at h
        obtain ⟨b, r', hbody, h⟩ := h
        cases h
        exact .block hhead hbrace hbody
      · next hbrace =>
        simp only [Option.bind_eq_bind, Option.bind_eq_some_iff, Prod.exists, Option.pure_def] at h
        obtain ⟨b, r', hbody, h⟩ := h
        cases h
        exact .function hhead hbrace hbody
    · next hhead =>
      simp only [Option.bind_eq_bind, Option.bind_eq_some_iff, Prod.exists, Option.pure_def] at h
      obtain ⟨left, r, hleft, h⟩ := h
      split at h
      · next more hmark =>
        obtain ⟨b, rfl⟩ := behindMark?_eq_some.mp hmark
        split_ifs at h with htarget
        · obtain ⟨⟨right, r⟩, hright, h⟩ := Option.bind_eq_some_iff.mp h
          cases h
          exact .assignment hhead hleft htarget hright
        · cases h
      · cases h
        exact .operand hhead hleft

theorem operand_signed {expr : Reader Node} {t : Token} {operator : String}
    (ht : operator? t = some operator) {b : Bool}
    (h : operand expr (⟨t, b⟩ :: ls) = some (m, rest)) :
    ∃ a, operand expr ls = some (a, rest) ∧ m = applied operator a := by
  simp only [operand, ht, Option.bind_eq_bind, Option.bind_eq_some_iff, Prod.exists,
    Option.pure_def, Option.some.injEq, Prod.mk.injEq] at h
  obtain ⟨a, r, ha, rfl, rfl⟩ := h
  exact ⟨a, ha, rfl⟩

theorem arrowHead?_signed {t : Token} {operator : String} (ht : operator? t = some operator)
    (b : Bool) (ls : List Lexeme) : arrowHead? (⟨t, b⟩ :: ls) = none := by
  unfold operator? at ht
  split at ht <;> cases ht <;> rfl

/-- Where an operator comes first, it applies to all that is read. -/
theorem expression_signed {depth : Nat} {t : Token} {operator : String}
    (ht : operator? t = some operator) {b : Bool}
    (h : expression depth (⟨t, b⟩ :: ls) = some (m, rest)) :
    ∃ d a, operand (expression d) ls = some (a, rest) ∧ m = applied operator a := by
  obtain ⟨d, h⟩ := readsAt_of_expression h
  refine ⟨d, ?_⟩
  have hnot := arrowHead?_signed ht b ls
  cases h with
  | block hhead => cases hnot.symm.trans hhead
  | function hhead => cases hnot.symm.trans hhead
  | assignment _ hleft htarget =>
    obtain ⟨a, -, rfl⟩ := operand_signed ht hleft
    rw [isTarget_applied] at htarget
    cases htarget
  | operand _ h => exact operand_signed ht h

/-- Where the head of a function comes first, all that is read is its body. -/
theorem expression_function {depth : Nat} {ps : List Node} {r : List Lexeme}
    (hhead : arrowHead? ls = some (ps, r)) (h : expression depth ls = some (m, rest)) :
    ∃ d b, m = .arrowFunction ps b ∧
      ((∃ inside, body (expression d) inside = some (b, rest)) ∨
        behindMark? '\x7b' r = none ∧ expression d r = some (b, rest)) := by
  obtain ⟨d, h⟩ := readsAt_of_expression h
  cases h with
  | block hhead' _ hbody =>
    cases hhead.symm.trans hhead'
    exact ⟨d, _, rfl, Or.inl ⟨_, hbody⟩⟩
  | function hhead' hbrace hbody =>
    cases hhead.symm.trans hhead'
    exact ⟨d, _, rfl, Or.inr ⟨hbrace, hbody⟩⟩
  | assignment hnot => cases hnot.symm.trans hhead
  | operand hnot => cases hnot.symm.trans hhead

theorem primary_array {expr : Reader Node} {b : Bool}
    (h : primary expr (⟨.mark '[', b⟩ :: ls) = some (m, rest)) :
    ∃ es, separated expr ']' (ls.length + 1) ls = some (es, rest) ∧ m = .arrayExpression es := by
  simp only [primary, Option.bind_eq_bind, Option.bind_eq_some_iff, Prod.exists, Option.pure_def,
    Option.some.injEq, Prod.mk.injEq] at h
  obtain ⟨es, r, hes, rfl, rfl⟩ := h
  exact ⟨es, hes, rfl⟩

theorem primary_object {expr : Reader Node} {b : Bool}
    (h : primary expr (⟨.mark '\x7b', b⟩ :: ls) = some (m, rest)) :
    ∃ ms, separated (member expr) '\x7d' (ls.length + 1) ls = some (ms, rest) ∧
      m = .objectExpression ms := by
  simp only [primary, Option.bind_eq_bind, Option.bind_eq_some_iff, Prod.exists, Option.pure_def,
    Option.some.injEq, Prod.mk.injEq] at h
  obtain ⟨ms, r, hms, rfl, rfl⟩ := h
  exact ⟨ms, hms, rfl⟩

theorem leaf_of_operandOfWord? {s : String} (h : operandOfWord? s = some n) :
    isKept n = true ∧ isTight n = true ∧ base n = n ∧ isFunction n = false ∧
      isAssignment n = false := by
  rcases operandOfWord?_cases h with rfl | rfl | ⟨b, rfl⟩ | rfl <;> exact ⟨rfl, rfl, rfl, rfl, rfl⟩

/-- What can be read first where an expression is written, if more than it is read. -/
structure Founded (n : Node) (ls : List Lexeme) : Prop where
  /-- No operand begins with an assignment that has no parentheses. -/
  noAssignment : ∀ depth tail m rest, operand (expression depth) (ls ++ tail) = some (m, rest) →
    isAssignment (base m) = false
  /-- An operand that is not tight ends what is read, if it is read as such at all. -/
  loose : isTight n = false → ∀ depth tail m rest,
    operand (expression depth) (ls ++ tail) = some (m, rest) ∨
      expression depth (ls ++ tail) = some (m, rest) →
    base m = base (regrouped n) → suffixes m = 0
  /-- What is written as a function is read as one. -/
  function : isFunction n = true → ∀ depth tail m rest,
    expression depth (ls ++ tail) = some (m, rest) → isFunction m = true

theorem Founded.append {a : Node} (h : Founded n ls) (hfunction : isFunction a = false)
    (htight : isTight a = false → isTight n = false)
    (hbase : base (regrouped a) = base (regrouped n)) (ls' : List Lexeme) :
    Founded a (ls ++ ls') where
  noAssignment depth tail m rest := by
    rw [List.append_assoc]
    exact h.noAssignment depth _ m rest
  loose ha depth tail m rest := by
    rw [List.append_assoc, hbase]
    exact h.loose (htight ha) depth _ m rest
  function ha := nomatch hfunction.symm.trans ha

theorem Founded.member (h : Founded n ls) (p : Node) (c : Value) (ls' : List Lexeme) :
    Founded (.memberExpression n p c) (ls ++ ls') := by
  refine h.append rfl (fun htight => ?_) (base_regrouped_member n p c) ls'
  exact htight

theorem founded_signed {t : Token} {operator : String} (ht : operator? t = some operator)
    (hn : isFunction n = false) (b : Bool) (ls : List Lexeme) : Founded n (⟨t, b⟩ :: ls) where
  noAssignment depth tail m rest h := by
    obtain ⟨a, -, rfl⟩ := operand_signed ht h
    exact isAssignment_applied operator a
  loose _ depth tail m rest h _ := by
    rcases h with h | h
    · obtain ⟨a, -, rfl⟩ := operand_signed ht h
      exact suffixes_applied operator a
    · obtain ⟨d, a, -, rfl⟩ := expression_signed ht h
      exact suffixes_applied operator a
  function h := nomatch hn.symm.trans h

theorem founded_primary {t : Token} (ht : operator? t = none) (hn : isTight n = true)
    (hfunction : isFunction n = false) (b : Bool) (h : ∀ depth rest m r,
      primary (expression depth) (⟨t, b⟩ :: rest) = some (m, r) → isAssignment (base m) = false)
    (ls : List Lexeme) : Founded n (⟨t, b⟩ :: ls) where
  noAssignment depth tail m rest ho := by
    obtain ⟨a, r, hprim, hs⟩ := operand_eq_some ht ho
    rw [(suffixed_begins hs).base_eq]
    exact h _ _ _ _ hprim
  loose hloose := nomatch hn.symm.trans hloose
  function h := nomatch hfunction.symm.trans h

theorem founded_function {ks : List String} {c : Bool}
    (hks : ∀ k ∈ ks, isBindable k = true)
    (hps : Written c (.all .expression ')' (ks.map fun k => .identifier (.str k))) ls)
    (b : Bool) (ls' : List Lexeme) :
    Founded n (⟨.mark '(', b⟩ :: (ls ++ ⟨.arrow, false⟩ :: ls')) := by
  have hhead : ∀ tail, arrowHead? (⟨.mark '(', b⟩ :: (ls ++ ⟨.arrow, false⟩ :: ls') ++ tail) =
      some (ks.map fun k => .identifier (.str k), ls' ++ tail) := fun tail => by
    rw [List.cons_append, List.append_assoc]
    exact hps.arrowHead? hks _
  constructor
  · intro depth tail m rest h
    obtain ⟨⟨s, rfl⟩, -⟩ := operand_of_arrowHead (hhead tail) h
    rfl
  · intro _ depth tail m rest h _
    rcases h with h | h
    · obtain ⟨⟨s, rfl⟩, -⟩ := operand_of_arrowHead (hhead tail) h
      rfl
    · obtain ⟨d, b, rfl, -⟩ := expression_function (hhead tail) h
      rfl
  · intro _ depth tail m rest h
    obtain ⟨d, b, rfl, -⟩ := expression_function (hhead tail) h
    rfl

theorem Founded.assignment {r : Node} (h : Founded n ls) (ls' : List Lexeme) :
    Founded (.assignmentExpression (.str "=") n r) (ls ++ ls') := by
  have hoperand : ∀ depth tail m rest,
      operand (expression depth) (ls ++ ls' ++ tail) = some (m, rest) →
      isAssignment (base m) = false := fun depth tail m rest h' => by
    rw [List.append_assoc] at h'
    exact h.noAssignment depth _ m rest h'
  refine ⟨hoperand, fun _ depth tail m rest h' hbase => ?_, nofun⟩
  have hassignment : isAssignment (base m) = true := by rw [hbase]; rfl
  rcases h' with h' | h'
  · exact nomatch hassignment.symm.trans (hoperand depth tail m rest h')
  · obtain ⟨d, h'⟩ := readsAt_of_expression h'
    cases h' with
    | block | function | assignment => rfl
    | operand _ h' => exact nomatch hassignment.symm.trans (hoperand d tail m rest h')

def Part.Founded : Part → List Lexeme → Prop
  | .one .expression n, ls => Script.Founded n ls
  | .enclosed false n, ls => Script.Founded n ls
  | .enclosed true n, ls => isFunction n = true → ∀ depth tail m rest,
    operand (expression depth) (ls ++ tail) = some (m, rest) → isAssignment (base m) = false
  | _, _ => True

theorem founded_call {as : List Node} (h : (Part.enclosed (wrapsCallee n) n).Founded ls)
    (ls' : List Lexeme) : Founded (.callExpression n as) (ls ++ ls') := by
  cases hw : wrapsCallee n with
  | false =>
    rw [hw] at h
    have hn : Founded n ls := h
    refine hn.append rfl (fun htight => ?_) ?_ ls'
    · rw [isTight, hw] at htight
      exact htight
    · rfl
  | true =>
    have htight : isTight (.callExpression n as) = true := by rw [isTight, hw]; rfl
    have hfunction : isFunction n = true := by cases n <;> first | rfl | cases hw
    rw [hw] at h
    refine ⟨fun depth tail m rest hread => ?_,
      fun hloose => absurd (hloose.symm.trans htight) Bool.false_ne_true,
      fun hcall => absurd hcall Bool.false_ne_true⟩
    rw [List.append_assoc] at hread
    exact h hfunction depth _ m rest hread

theorem Written.founded {b : Bool} {p : Part} (h : Written b p ls) : p.Founded ls := by
  induction h with
  | word hs hop b =>
    obtain ⟨-, htight, hbase, hfunction, hassign⟩ := leaf_of_operandOfWord? hs
    refine founded_primary hop htight hfunction b (fun depth rest m r h => ?_) _
    cases (primary_word hs _ b rest).symm.trans h
    exact hbase.symm ▸ hassign
  | text s b =>
    refine founded_primary rfl rfl rfl b (fun depth rest m r h => ?_) _
    cases h
    rfl
  | natural i b =>
    refine founded_primary rfl (isTight_natural i) rfl b (fun depth rest m r h => ?_) _
    cases h
    rfl
  | negative i b c => exact founded_signed rfl rfl b _
  | array hes b =>
    refine founded_primary rfl rfl rfl b (fun depth rest m r h => ?_) _
    obtain ⟨items, -, rfl⟩ := primary_array h
    rfl
  | object hms b =>
    refine founded_primary rfl rfl rfl b (fun depth rest m r h => ?_) _
    obtain ⟨items, -, rfl⟩ := primary_object h
    rfl
  | property | binding | nil | last | next => trivial
  | function hks hps hn b => exact founded_function hks hps b _
  | access _ _ _ c d ih => exact Founded.member ih _ _ _
  | quoted _ _ c d e ih => exact Founded.member ih _ _ _
  | selection _ _ c e ih => exact Founded.member ih _ _ _
  | operation ht ha hsigns b => exact founded_signed (operator?_of_token ht) rfl b _
  | assignment hl htarget hr c ih => exact Founded.assignment ih _
  | call hn has c ih => exact founded_call ih _
  | bare hn ih => exact ih
  | parenthesised hn b d ih =>
    intro hfunction depth tail m rest h
    rw [List.cons_append, List.append_assoc] at h
    obtain ⟨e, r, hprim, hs⟩ := operand_eq_some rfl h
    obtain ⟨f, he⟩ := primary_parenthesis hprim
    have hfun := Founded.function ih hfunction _ _ _ _ he
    rw [(suffixed_begins hs).base_eq]
    cases e <;> first | rfl | cases hfun

end Componentry.Script
