import Componentry.Proofs.Script.Founded

/-!
# Operands that are read back

What it means that a part is recovered from its lexemes: where it is read back, it keeps its nesting
and ends where it was written to end. An operand that does not hold together is told from what is
read instead by the operand that an expression begins with. Lists are recovered item by item, and a
word, a text, a numeral and what stands in brackets of its own are recovered as such operands.
-/

namespace Componentry.Script

variable {n m : Node} {ls rest : List Lexeme}

/-- Where a node is read back, it keeps its nesting, and its lexemes are all that is read. -/
def Recovers (role : Role) (n : Node) (ls : List Lexeme) : Prop :=
  ∀ depth tail rest, itemReader role depth (ls ++ tail) = some (regrouped n, rest) →
    isKept n = true ∧ rest = tail

def RecoversOperand (n : Node) (ls : List Lexeme) : Prop :=
  ∀ depth tail rest, operand (expression depth) (ls ++ tail) = some (regrouped n, rest) →
    isKept n = true ∧ rest = tail

/-- Where an operand begins with an expression, the expression keeps its nesting, and the accesses
and calls that follow it are read behind its lexemes. -/
def RecoversBase (n : Node) (ls : List Lexeme) : Prop :=
  ∀ depth tail m rest, operand (expression depth) (ls ++ tail) = some (m, rest) →
    Begins (regrouped n) m →
    isKept n = true ∧ ∃ fuel, suffixed (expression depth) fuel (regrouped n) tail = some (m, rest)

theorem RecoversBase.operand (h : RecoversBase n ls) : RecoversOperand n ls := by
  intro depth tail rest ho
  obtain ⟨hkept, fuel, hs⟩ := h depth tail _ rest ho .refl
  exact ⟨hkept, suffixed_self hs⟩

theorem RecoversOperand.expression (h : RecoversOperand n ls)
    (hfunction : isFunction (regrouped n) = false) (hassign : isAssignment (regrouped n) = false) :
    Recovers .expression n ls := by
  intro depth tail rest hread
  obtain ⟨d, hread⟩ := readsAt_of_expression hread
  generalize hm : regrouped n = m at hread
  cases hread with
  | block => rw [hm] at hfunction; cases hfunction
  | function => rw [hm] at hfunction; cases hfunction
  | assignment => rw [hm] at hassign; cases hassign
  | operand _ ho => exact h d tail rest (hm ▸ ho)

/-- How an expression is recovered. -/
structure IsRecovered (n : Node) (ls : List Lexeme) : Prop where
  expression : Recovers .expression n ls
  operand : wrapsOperand n = false → RecoversOperand n ls
  base : isTight n = true → RecoversBase n ls

def Part.IsRecovered : Part → List Lexeme → Prop
  | .one .expression n, ls => Script.IsRecovered n ls
  | .one role n, ls => Recovers role n ls
  | .enclosed false n, ls => Script.IsRecovered n ls
  | .enclosed true n, ls => suffixes (regrouped n) = 0 →
    RecoversOperand n ls ∧ (isTight n = false → RecoversBase n ls)
  | .all role close ns, ls => Closes role close → ∀ depth fuel tail rest,
    separated (itemReader role depth) close fuel (ls ++ tail) = some (regroupedAll ns, rest) →
      areKept ns = true ∧ rest = tail

theorem Part.IsRecovered.recovers {role : Role} (h : (Part.one role n).IsRecovered ls) :
    Recovers role n ls := by
  cases role with
  | expression => exact Script.IsRecovered.expression h
  | member => exact h
  | statement => exact h

section

variable {α : Type} {item : Reader α} {close : Char} {fuel : Nat} {a : α} {as : List α}

theorem separated_cons (h : separated item close fuel ls = some (a :: as, rest)) :
    ∃ f r, fuel = f + 1 ∧ item ls = some (a, r) ∧
      ((∃ b more, r = ⟨.mark ',', b⟩ :: more ∧ separated item close f more = some (as, rest)) ∨
        as = [] ∧ ∃ b, r = ⟨.mark close, b⟩ :: rest) := by
  cases fuel with
  | zero => cases h
  | succ f =>
    rw [separated] at h
    split at h
    · cases h
    · simp only [Option.bind_eq_bind, Option.bind_eq_some_iff, Prod.exists, Option.pure_def] at h
      obtain ⟨a', r, hitem, h⟩ := h
      refine ⟨f, r, rfl, ?_⟩
      split at h
      · next more hcomma =>
        obtain ⟨b, rfl⟩ := behindMark?_eq_some.mp hcomma
        obtain ⟨⟨as', r'⟩, hrest, h⟩ := Option.bind_eq_some_iff.mp h
        cases h
        exact ⟨hitem, Or.inl ⟨b, more, rfl, hrest⟩⟩
      · obtain ⟨r', hclose, h⟩ := Option.bind_eq_some_iff.mp h
        cases h
        exact ⟨hitem, Or.inr ⟨rfl, behindMark?_eq_some.mp hclose⟩⟩

end

section

variable {role : Role} {close : Char}

theorem isRecovered_nil (role : Role) (close : Char) (b : Bool) :
    (Part.all role close []).IsRecovered [⟨.mark close, b⟩] := by
  intro _ depth fuel tail rest h
  cases fuel with
  | zero => cases h
  | succ fuel =>
    cases (separated_close _ close fuel b tail).symm.trans h
    exact ⟨rfl, rfl⟩

theorem isRecovered_last (h : (Part.one role n).IsRecovered ls) (close : Char) (c : Bool) :
    (Part.all role close [n]).IsRecovered (ls ++ [⟨.mark close, c⟩]) := by
  intro hclose depth fuel tail rest hread
  rw [List.append_assoc] at hread
  obtain ⟨f, r, -, hitem, hend⟩ := separated_cons hread
  obtain ⟨hkept, rfl⟩ := h.recovers depth _ _ hitem
  obtain ⟨b, more, heq, -⟩ | ⟨-, b, heq⟩ := hend
  · cases heq
    exact absurd rfl hclose.ne_comma
  · cases heq
    exact ⟨by rw [areKept, hkept]; rfl, rfl⟩

theorem isRecovered_next {ns : List Node} {ls' : List Lexeme} (hns : ns ≠ [])
    (h : (Part.one role n).IsRecovered ls) (h' : (Part.all role close ns).IsRecovered ls')
    (c : Bool) : (Part.all role close (n :: ns)).IsRecovered (ls ++ ⟨.mark ',', c⟩ :: ls') := by
  intro hclose depth fuel tail rest hread
  rw [List.append_assoc, List.cons_append] at hread
  obtain ⟨f, r, -, hitem, hend⟩ := separated_cons hread
  obtain ⟨hkept, rfl⟩ := h.recovers depth _ _ hitem
  obtain ⟨b, more, heq, hread⟩ | ⟨hnil, -⟩ := hend
  · cases heq
    obtain ⟨hkepts, rfl⟩ := h' hclose depth f tail rest hread
    exact ⟨by rw [areKept, hkept, hkepts]; rfl, rfl⟩
  · rw [regroupedAll_eq_map, List.map_eq_nil_iff] at hnil
    exact absurd hnil hns

end

/-- An operand that is not tight is recovered nowhere: what its lexemes begin with ends what is
read, and it goes on. -/
theorem IsRecovered.of_base (hfounded : Founded n ls)
    (hloose : isTight n = false → suffixes (regrouped n) ≠ 0)
    (hfunction : isFunction (regrouped n) = false) (hassign : isAssignment (regrouped n) = false)
    (h : isTight n = true → RecoversBase n ls) : IsRecovered n ls := by
  cases htight : isTight n with
  | true =>
    have hbase := h htight
    exact ⟨hbase.operand.expression hfunction hassign, fun _ => hbase.operand, fun _ => hbase⟩
  | false =>
    refine ⟨fun depth tail rest hr => ?_, fun _ depth tail rest hr => ?_,
      fun ht => nomatch htight.symm.trans ht⟩
    · exact absurd (hfounded.loose htight depth tail _ rest (Or.inr hr) rfl) (hloose htight)
    · exact absurd (hfounded.loose htight depth tail _ rest (Or.inl hr) rfl) (hloose htight)

theorem recoversBase_leaf {t : Token} {b : Bool} (ht : operator? t = none)
    (hkept : isKept n = true) (h : ∀ depth tail,
      primary (expression depth) (⟨t, b⟩ :: tail) = some (regrouped n, tail)) :
    RecoversBase n [⟨t, b⟩] := by
  intro depth tail m rest ho _
  rw [List.singleton_append, operand_primary ht b (h depth tail)] at ho
  exact ⟨hkept, _, ho⟩

theorem recoversBase_text (s : String) (b : Bool) :
    RecoversBase (.stringLiteral (.str s)) [⟨.text s, b⟩] :=
  recoversBase_leaf rfl rfl fun _ _ => rfl

theorem recoversBase_natural (i : Nat) (b : Bool) :
    RecoversBase (.numericLiteral (.int i)) [⟨.number i, b⟩] :=
  recoversBase_leaf rfl rfl fun _ _ => rfl

theorem recoversBase_array {es : List Node}
    (h : (Part.all .expression ']' es).IsRecovered ls) (b : Bool) :
    RecoversBase (.arrayExpression es) (⟨.mark '[', b⟩ :: ls) := by
  intro depth tail m rest ho hbegins
  obtain ⟨a, r, hprim, hs⟩ := operand_eq_some rfl ho
  obtain ⟨items, hitems, rfl⟩ := primary_array hprim
  have heq : Node.arrayExpression items = .arrayExpression (regroupedAll es) :=
    (suffixed_begins hs).eq_of_suffixes hbegins rfl
  cases heq
  obtain ⟨hkept, rfl⟩ := h (Or.inl rfl) depth _ tail r hitems
  exact ⟨hkept, _, hs⟩

theorem recoversBase_object {ms : List Node}
    (h : (Part.all .member '\x7d' ms).IsRecovered ls) (b : Bool) :
    RecoversBase (.objectExpression ms) (⟨.mark '\x7b', b⟩ :: ls) := by
  intro depth tail m rest ho hbegins
  obtain ⟨a, r, hprim, hs⟩ := operand_eq_some rfl ho
  obtain ⟨items, hitems, rfl⟩ := primary_object hprim
  have heq : Node.objectExpression items = .objectExpression (regroupedAll ms) :=
    (suffixed_begins hs).eq_of_suffixes hbegins rfl
  cases heq
  obtain ⟨hkept, rfl⟩ := h rfl depth _ tail r hitems
  exact ⟨hkept, _, hs⟩

theorem isRecovered_parenthesised (h : IsRecovered n ls) (hfounded : Founded n ls) (b d : Bool) :
    (Part.enclosed true n).IsRecovered (⟨.mark '(', b⟩ :: (ls ++ [⟨.mark ')', d⟩])) := by
  intro hsuffixes
  have hinside : ∀ depth tail m rest, operand (expression depth)
      (⟨.mark '(', b⟩ :: (ls ++ [⟨.mark ')', d⟩]) ++ tail) = some (m, rest) →
      Begins (regrouped n) m → (∀ e rest, expression depth (ls ++ ⟨.mark ')', d⟩ :: tail) =
        some (e, rest) → Begins e m → suffixes e = 0) →
      isKept n = true ∧ ∃ fuel,
        suffixed (expression depth) fuel (regrouped n) tail = some (m, rest) := by
    intro depth tail m rest ho hbegins hzero
    rw [List.cons_append, List.append_assoc] at ho
    obtain ⟨e, r, hprim, hs⟩ := operand_eq_some rfl ho
    obtain ⟨f, he⟩ := primary_parenthesis hprim
    have hbegins' := suffixed_begins hs
    obtain rfl := hbegins'.eq_of_suffixes hbegins ((hzero e _ he hbegins').trans hsuffixes.symm)
    obtain ⟨hkept, heq⟩ := h.expression depth _ _ he
    cases heq
    exact ⟨hkept, _, hs⟩
  constructor
  · intro depth tail rest ho
    obtain ⟨hkept, fuel, hs⟩ := hinside depth tail _ rest ho .refl fun e _ _ hbegins =>
      Nat.le_zero.mp (hsuffixes ▸ hbegins.suffixes_le)
    exact ⟨hkept, suffixed_self hs⟩
  · intro htight depth tail m rest ho hbegins
    refine hinside depth tail m rest ho hbegins fun e r he hbegins' => ?_
    exact hfounded.loose htight depth _ e r (Or.inr he)
      (hbegins'.base_eq.symm.trans hbegins.base_eq)

end Componentry.Script
