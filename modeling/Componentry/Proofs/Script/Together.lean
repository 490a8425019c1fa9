import Componentry.Proofs.Script.Taken

/-!
# Expressions that hold together

An operand holds together if the accesses and calls behind its lexemes belong to all of it, and not
to a part. What holds together is an operand, and an operand is read as an expression wherever one
may end. Each construct that begins with a mark or a word of its own holds together, and so do
accesses and calls behind what does.
-/

namespace Componentry.Script

variable {n m : Node} {ls tail : List Lexeme}

def itemReader : Role → Nat → Reader Node
  | .member, depth => member (expression depth)
  | _, depth => expression depth

@[simp] theorem itemReader_expression (depth : Nat) :
    itemReader .expression depth = expression depth := rfl

@[simp] theorem itemReader_member (depth : Nat) :
    itemReader .member depth = member (expression depth) := rfl

def Lexeme.EndsItem (l : Lexeme) : Role → Prop
  | .member => l.endsMember
  | _ => l.endsExpression

/-- The marks that lists are closed with. -/
def Closes : Role → Char → Prop
  | .expression, c => c = ']' ∨ c = ')'
  | .member, c => c = '\x7d'
  | .statement, _ => False

/-- The lexemes of a node are read as the node regrouped, at any depth that they reach. -/
def ReadsBack (role : Role) (n : Node) (ls : List Lexeme) : Prop :=
  ∀ depth tail, ls.length ≤ depth → Stops (·.EndsItem role) tail →
    itemReader role depth (ls ++ tail) = some (regrouped n, tail)

def IsOperand (n : Node) (ls : List Lexeme) : Prop :=
  ∀ depth tail, ls.length ≤ depth + 1 → Stops Lexeme.endsExpression tail →
    operand (expression depth) (ls ++ tail) = some (regrouped n, tail)

/-- The accesses and calls behind the lexemes of an expression belong to all of it. -/
def HoldsTogether (n : Node) (ls : List Lexeme) : Prop :=
  ∀ depth tail, ls.length ≤ depth + 1 → ∃ fuel, tail.length < fuel ∧
    operand (expression depth) (ls ++ tail) = suffixed (expression depth) fuel (regrouped n) tail

theorem HoldsTogether.isOperand (h : HoldsTogether n ls) : IsOperand n ls := by
  intro depth tail hd htail
  obtain ⟨fuel, hf, ho⟩ := h depth tail hd
  obtain ⟨fuel, rfl⟩ : ∃ k, fuel = k + 1 := Nat.exists_eq_add_of_le' (by omega)
  rw [ho, suffixed_stop htail]

theorem IsOperand.readsBack (h : IsOperand n ls) (hne : ls ≠ []) : ReadsBack .expression n ls := by
  intro depth tail hd htail
  have hlength := List.length_pos_iff.mpr hne
  obtain ⟨depth, rfl⟩ : ∃ k, depth = k + 1 := Nat.exists_eq_add_of_le' (by omega)
  have ho := h depth tail hd htail
  cases hhead : arrowHead? (ls ++ tail) with
  | none => exact expressionOver_operand hhead ho htail
  | some r =>
    obtain ⟨-, rfl⟩ := operand_of_arrowHead hhead ho
    exact absurd (htail _ rfl) nofun

/-- How an expression is read back. What is no function and no assignment is an operand, and what is
tight holds together. -/
structure IsReadBack (n : Node) (ls : List Lexeme) : Prop where
  readsBack : ReadsBack .expression n ls
  isOperand : (isFunction n || isAssignment n) = false → IsOperand n ls
  holdsTogether : isTight n = true → HoldsTogether n ls

theorem HoldsTogether.isReadBack (h : HoldsTogether n ls) (hne : ls ≠ []) : IsReadBack n ls :=
  ⟨h.isOperand.readsBack hne, fun _ => h.isOperand, fun _ => h⟩

theorem IsOperand.isReadBack (h : IsOperand n ls) (hne : ls ≠ []) (hn : isTight n = false) :
    IsReadBack n ls :=
  ⟨h.readsBack hne, fun _ => h, fun ht => absurd (hn ▸ ht) nofun⟩

theorem ReadsBack.isReadBack (h : ReadsBack .expression n ls)
    (hloose : (isFunction n || isAssignment n) = true) (hn : isTight n = false) :
    IsReadBack n ls :=
  ⟨h, fun hoperand => absurd (hoperand.symm.trans hloose) Bool.false_ne_true,
    fun htight => absurd (hn.symm.trans htight) Bool.false_ne_true⟩

def Part.IsReadBack : Part → List Lexeme → Prop
  | .one .expression n, ls => isKept n = true → Script.IsReadBack n ls
  | .one role n, ls => isKept n = true → ReadsBack role n ls
  | .enclosed false n, ls => isKept n = true → Script.IsReadBack n ls
  | .enclosed true n, ls => isKept n = true → HoldsTogether n ls
  | .all role close ns, ls => Closes role close → areKept ns = true →
    ∀ depth fuel tail, ls.length ≤ depth → ls.length ≤ fuel →
      separated (itemReader role depth) close fuel (ls ++ tail) = some (regroupedAll ns, tail)

theorem Part.IsReadBack.readsBack {role : Role} (h : (Part.one role n).IsReadBack ls)
    (hn : isKept n = true) : ReadsBack role n ls := by
  cases role with
  | expression => exact (h hn).readsBack
  | member => exact h hn
  | statement => exact h hn

theorem Part.IsReadBack.enclosed {wrap : Bool} (h : (Part.enclosed wrap n).IsReadBack ls)
    (hn : isKept n = true) (hne : ls ≠ []) : ReadsBack .expression n ls := by
  cases wrap with
  | false => exact (h hn).readsBack
  | true => exact (HoldsTogether.isOperand (h hn)).readsBack hne

section

variable {role : Role} {close : Char}

theorem Closes.ne_comma (h : Closes role close) : close ≠ ',' := by
  cases role with
  | expression => rcases h with rfl | rfl <;> decide
  | member =>
    cases h
    decide
  | statement => exact h.elim

theorem itemReader_close (h : Closes role close) (depth : Nat) (b : Bool) (ls : List Lexeme) :
    itemReader role depth (⟨.mark close, b⟩ :: ls) = none := by
  cases role with
  | expression => rcases h with rfl | rfl <;> exact expression_mark (by decide) depth b ls
  | member => rfl
  | statement => exact h.elim

/-- A list does not end where another item can be read. -/
theorem behindMark?_of_item (h : Closes role close) {depth : Nat} {r : Node × List Lexeme}
    (hitem : itemReader role depth ls = some r) : behindMark? close ls = none := by
  cases hmark : behindMark? close ls with
  | none => rfl
  | some rest =>
    obtain ⟨b, rfl⟩ := behindMark?_eq_some.mp hmark
    rw [itemReader_close h] at hitem
    cases hitem

theorem endsItem_of_closes (h : Closes role close) (b : Bool) :
    (Lexeme.mk (.mark ',') b).EndsItem role ∧ (Lexeme.mk (.mark close) b).EndsItem role := by
  cases role with
  | expression => rcases h with rfl | rfl <;> exact ⟨rfl, rfl⟩
  | member =>
    cases h
    exact ⟨Or.inl rfl, Or.inr rfl⟩
  | statement => exact h.elim

theorem isReadBack_last (h : (Part.one role n).IsReadBack ls) (close : Char) (c : Bool) :
    (Part.all role close [n]).IsReadBack (ls ++ [⟨.mark close, c⟩]) := by
  intro hclose hn depth fuel tail hd hf
  rw [List.length_append, List.length_singleton] at hd hf
  rw [areKept, areKept, Bool.and_true] at hn
  obtain ⟨fuel, rfl⟩ : ∃ k, fuel = k + 1 := Nat.exists_eq_add_of_le' (by omega)
  have hr := h.readsBack hn depth (⟨.mark close, c⟩ :: tail) (by omega)
    (.cons (endsItem_of_closes hclose c).2)
  rw [List.append_assoc, List.singleton_append, separated, behindMark?_of_item hclose hr]
  simp only [hr, behindMark?_of_ne (mt Token.mark.inj hclose.ne_comma), behindMark?_mark,
    Option.bind_eq_bind, Option.bind_some, Option.pure_def, regroupedAll]

theorem isReadBack_next {ns : List Node} {ls' : List Lexeme}
    (h : (Part.one role n).IsReadBack ls) (h' : (Part.all role close ns).IsReadBack ls')
    (c : Bool) : (Part.all role close (n :: ns)).IsReadBack (ls ++ ⟨.mark ',', c⟩ :: ls') := by
  intro hclose hn depth fuel tail hd hf
  rw [List.length_append, List.length_cons] at hd hf
  rw [areKept, Bool.and_eq_true] at hn
  obtain ⟨fuel, rfl⟩ : ∃ k, fuel = k + 1 := Nat.exists_eq_add_of_le' (by omega)
  have hr := h.readsBack hn.1 depth (⟨.mark ',', c⟩ :: (ls' ++ tail)) (by omega)
    (.cons (endsItem_of_closes hclose c).1)
  have hs := h' hclose hn.2 depth fuel tail (by omega) (by omega)
  rw [List.append_assoc, List.cons_append, separated, behindMark?_of_item hclose hr]
  simp only [hr, behindMark?_mark, hs, Option.bind_eq_bind, Option.bind_some, Option.pure_def,
    regroupedAll]

end

theorem holdsTogether_primary {t : Token} {b : Bool} {rest : List Lexeme}
    (ht : operator? t = none) (h : ∀ depth tail, rest.length ≤ depth →
      primary (expression depth) (⟨t, b⟩ :: (rest ++ tail)) = some (regrouped n, tail)) :
    HoldsTogether n (⟨t, b⟩ :: rest) := by
  intro depth tail hd
  rw [List.length_cons] at hd
  exact ⟨_, Nat.lt_succ_self _, operand_primary ht b (h depth tail (by omega))⟩

theorem regrouped_of_operandOfWord? {s : String} (h : operandOfWord? s = some n) :
    regrouped n = n := by
  rcases operandOfWord?_cases h with rfl | rfl | ⟨b, rfl⟩ | rfl <;> rfl

theorem holdsTogether_word {s : String} (hs : operandOfWord? s = some n)
    (hop : operator? (.word s) = none) (b : Bool) : HoldsTogether n [⟨.word s, b⟩] :=
  holdsTogether_primary hop fun depth tail _ => by
    rw [regrouped_of_operandOfWord? hs]
    exact primary_word hs _ b tail

theorem holdsTogether_text (s : String) (b : Bool) :
    HoldsTogether (.stringLiteral (.str s)) [⟨.text s, b⟩] :=
  holdsTogether_primary rfl fun _ _ _ => rfl

theorem holdsTogether_natural (i : Nat) (b : Bool) :
    HoldsTogether (.numericLiteral (.int i)) [⟨.number i, b⟩] :=
  holdsTogether_primary rfl fun _ _ _ => rfl

theorem holdsTogether_array {es : List Node} (hn : areKept es = true)
    (h : (Part.all .expression ']' es).IsReadBack ls) (b : Bool) :
    HoldsTogether (.arrayExpression es) (⟨.mark '[', b⟩ :: ls) :=
  holdsTogether_primary rfl fun depth tail hd => by
    have hr := h (Or.inl rfl) hn depth ((ls ++ tail).length + 1) tail hd
      (by rw [List.length_append]; omega)
    rw [itemReader_expression] at hr
    simp only [primary, hr, Option.bind_eq_bind, Option.bind_some, Option.pure_def, regrouped]

theorem holdsTogether_object {ms : List Node} (hn : areKept ms = true)
    (h : (Part.all .member '\x7d' ms).IsReadBack ls) (b : Bool) :
    HoldsTogether (.objectExpression ms) (⟨.mark '\x7b', b⟩ :: ls) :=
  holdsTogether_primary rfl fun depth tail hd => by
    have hr := h rfl hn depth ((ls ++ tail).length + 1) tail hd
      (by rw [List.length_append]; omega)
    rw [itemReader_member] at hr
    simp only [primary, hr, Option.bind_eq_bind, Option.bind_some, Option.pure_def, regrouped]

theorem holdsTogether_parenthesised (h : ReadsBack .expression n ls) (b d : Bool) :
    HoldsTogether n (⟨.mark '(', b⟩ :: (ls ++ [⟨.mark ')', d⟩])) :=
  holdsTogether_primary rfl fun depth tail hd => by
    rw [List.length_append, List.length_singleton] at hd
    have hr : expression depth (ls ++ ⟨.mark ')', d⟩ :: tail) = _ :=
      h depth (⟨.mark ')', d⟩ :: tail) (by omega) (.mark rfl)
    simp only [List.append_assoc, List.singleton_append, primary, hr, Option.bind_eq_bind,
      Option.bind_some, behindMark?_mark, Option.pure_def]

theorem HoldsTogether.access (h : HoldsTogether n ls) (k : String) (c d : Bool) :
    HoldsTogether (.memberExpression n (.identifier (.str k)) (.bool false))
      (ls ++ [⟨.mark '.', c⟩, ⟨.word (settledName k), d⟩]) := by
  intro depth tail hd
  rw [List.length_append] at hd
  obtain ⟨fuel, hf, ho⟩ := h depth (⟨.mark '.', c⟩ :: ⟨.word (settledName k), d⟩ :: tail) (by omega)
  obtain ⟨fuel, rfl⟩ : ∃ k, fuel = k + 1 := Nat.exists_eq_add_of_le' (by omega)
  refine ⟨fuel, ?_, ?_⟩
  · simp only [List.length_cons] at hf
    omega
  · rw [List.append_assoc]
    exact ho

theorem regrouped_quoted {o : Node} {k : String} (hk : Naming.isIdentifierName k = false) :
    regrouped (.memberExpression o (.identifier (.str k)) (.bool false)) =
      selected (regrouped o) (.stringLiteral (.str k)) := by
  have hsettled : settledName k = k := by simp [settledName, hk]
  rw [regrouped_access, reread, hsettled]
  rfl

theorem HoldsTogether.selection {a p : Node} {ls' : List Lexeme} (h : HoldsTogether n ls)
    (hp : ∀ depth tail, ls'.length ≤ depth → Stops Lexeme.endsExpression tail →
      expression depth (ls' ++ tail) = some (p, tail))
    (ha : regrouped a = selected (regrouped n) p) (c e : Bool) :
    HoldsTogether a (ls ++ ⟨.mark '[', c⟩ :: (ls' ++ [⟨.mark ']', e⟩])) := by
  intro depth tail hd
  simp only [List.length_append, List.length_cons, List.length_nil] at hd
  obtain ⟨fuel, hf, ho⟩ := h depth (⟨.mark '[', c⟩ :: (ls' ++ ⟨.mark ']', e⟩ :: tail)) (by omega)
  obtain ⟨fuel, rfl⟩ : ∃ k, fuel = k + 1 := Nat.exists_eq_add_of_le' (by omega)
  have hr := hp depth (⟨.mark ']', e⟩ :: tail) (by omega) (.mark rfl)
  refine ⟨fuel, ?_, ?_⟩
  · simp only [List.length_cons, List.length_append] at hf
    omega
  · simp only [List.append_assoc, List.cons_append, List.nil_append, ho, suffixed, hr,
      Option.bind_eq_bind, Option.bind_some, behindMark?_mark, ha]

theorem HoldsTogether.call {as : List Node} {ls' : List Lexeme} (h : HoldsTogether n ls)
    (hn : areKept as = true) (has : (Part.all .expression ')' as).IsReadBack ls') (c : Bool) :
    HoldsTogether (.callExpression n as) (ls ++ ⟨.mark '(', c⟩ :: ls') := by
  intro depth tail hd
  rw [List.length_append, List.length_cons] at hd
  obtain ⟨fuel, hf, ho⟩ := h depth (⟨.mark '(', c⟩ :: (ls' ++ tail)) (by omega)
  obtain ⟨fuel, rfl⟩ : ∃ k, fuel = k + 1 := Nat.exists_eq_add_of_le' (by omega)
  have hr := has (Or.inr rfl) hn depth ((ls' ++ tail).length + 1) tail (by omega)
    (by rw [List.length_append]; omega)
  rw [itemReader_expression] at hr
  refine ⟨fuel, ?_, ?_⟩
  · simp only [List.length_cons, List.length_append] at hf
    omega
  · simp only [List.append_assoc, List.cons_append, ho, suffixed, hr, Option.bind_eq_bind,
      Option.bind_some, regrouped]

theorem operator?_of_token {operator : String} {t : Token} (h : operatorToken? operator = some t) :
    operator? t = some operator := by
  unfold operatorToken? at h
  split at h <;> cases h <;> rfl

theorem IsOperand.operation {operator : String} {t : Token} {a : Node} (h : IsOperand n ls)
    (ht : operator? t = some operator) (ha : regrouped a = applied operator (regrouped n))
    (b : Bool) : IsOperand a (⟨t, b⟩ :: ls) := by
  intro depth tail hd htail
  rw [List.length_cons] at hd
  have ho := h depth tail (by omega) htail
  simp only [List.cons_append, operand, ht, ho, Option.bind_eq_bind, Option.bind_some,
    Option.pure_def, ha]

theorem regrouped_negative (i : Nat) : regrouped (.numericLiteral (.int (-(i + 1 : Nat)))) =
    applied "-" (regrouped (.numericLiteral (.int (i + 1 : Nat)))) :=
  (if_pos ⟨rfl, by omega⟩).symm

theorem isTarget_regrouped (h : isTarget n = true) : isTarget (regrouped n) = true := by
  unfold isTarget at h
  split at h
  · exact h
  · next o p c =>
    obtain ⟨q, d, hq⟩ := regrouped_member o p c
    rw [hq]
    rfl
  · cases h

theorem HoldsTogether.assignment {r : Node} {ls' : List Lexeme} (h : HoldsTogether n ls)
    (htarget : isTarget n = true) (hr : ReadsBack .expression r ls') (c : Bool) :
    ReadsBack .expression (.assignmentExpression (.str "=") n r) (ls ++ ⟨.mark '=', c⟩ :: ls') := by
  intro depth tail hd htail
  rw [List.length_append, List.length_cons] at hd
  obtain ⟨depth, rfl⟩ : ∃ k, depth = k + 1 := Nat.exists_eq_add_of_le' (by omega)
  obtain ⟨fuel, hf, ho⟩ := h depth (⟨.mark '=', c⟩ :: (ls' ++ tail)) (by omega)
  obtain ⟨fuel, rfl⟩ : ∃ k, fuel = k + 1 := Nat.exists_eq_add_of_le' (by omega)
  have hleft : operand (expression depth) (ls ++ ⟨.mark '=', c⟩ :: (ls' ++ tail)) =
      some (regrouped n, ⟨.mark '=', c⟩ :: (ls' ++ tail)) := ho
  rw [List.append_assoc, List.cons_append]
  cases hhead : arrowHead? (ls ++ ⟨.mark '=', c⟩ :: (ls' ++ tail)) with
  | none =>
    exact expressionOver_assignment hhead hleft (isTarget_regrouped htarget)
      (hr depth tail (by omega) htail)
  | some r =>
    have := (operand_of_arrowHead hhead hleft).2
    cases this

end Componentry.Script
