import Componentry.Proofs.Script.Clause
import Componentry.Proofs.Script.Nesting

/-!
# The lexemes of nested expressions

`Written` relates an expression to the lexemes of its printed text. It says which lexemes these are,
not how they are read: where parentheses are missing they can be read as another expression. Line
ends may stand anywhere but before an arrow, and the first lexeme tells whether one stands before
the expression.
-/

namespace Componentry.Script

/-- A piece of an expression: an expression or a member of an object, an expression that may stand
in parentheses, or a list up to the mark that closes it. -/
inductive Part where
  | one (role : Role) (n : Node)
  | enclosed (wrap : Bool) (n : Node)
  | all (role : Role) (close : Char) (ns : List Node)

/-- The lexemes of a piece, by whether a line ends before them. A numeral has no name right behind
it, and a minus sign no other one: such text has no lexemes. -/
inductive Written : Bool → Part → List Lexeme → Prop
  | word {s : String} {n : Node} (hs : operandOfWord? s = some n)
    (hop : operator? (.word s) = none) (b : Bool) : Written b (.one .expression n) [⟨.word s, b⟩]
  | text (s : String) (b : Bool) :
    Written b (.one .expression (.stringLiteral (.str s))) [⟨.text s, b⟩]
  | natural (i : Nat) (b : Bool) :
    Written b (.one .expression (.numericLiteral (.int i))) [⟨.number i, b⟩]
  | negative (i : Nat) (b c : Bool) :
    Written b (.one .expression (.numericLiteral (.int (-(i + 1 : Nat)))))
      [⟨.mark '-', b⟩, ⟨.number (i + 1), c⟩]
  | array {es : List Node} {ls : List Lexeme} {c : Bool}
    (hes : Written c (.all .expression ']' es) ls) (b : Bool) :
    Written b (.one .expression (.arrayExpression es)) (⟨.mark '[', b⟩ :: ls)
  | object {ms : List Node} {ls : List Lexeme} {c : Bool}
    (hms : Written c (.all .member '\x7d' ms) ls) (b : Bool) :
    Written b (.one .expression (.objectExpression ms)) (⟨.mark '\x7b', b⟩ :: ls)
  | property {key v : Node} {k : String} {ls : List Lexeme} {d : Bool}
    (hkey : key = .identifier (.str k) ∨ key = .stringLiteral (.str k))
    (hv : Written d (.one .expression v) ls) (b c : Bool) :
    Written b (.one .member (.objectProperty key v (.bool false)))
      (⟨keyToken k, b⟩ :: ⟨.mark ':', c⟩ :: ls)
  | binding {k : String} (hk : IsName k) (b : Bool) :
    Written b (.one .member
      (.objectProperty (.identifier (.str k)) (.identifier (.str k)) (.bool true)))
      [⟨.word k, b⟩]
  | function {ks : List String} {n : Node} {ls ls' : List Lexeme} {c d : Bool}
    (hks : ∀ k ∈ ks, isBindable k = true)
    (hps : Written c (.all .expression ')' (ks.map fun k => .identifier (.str k))) ls)
    (hn : Written d (.enclosed (wrapsBody n) n) ls') (b : Bool) :
    Written b (.one .expression (.arrowFunction (ks.map fun k => .identifier (.str k)) n))
      (⟨.mark '(', b⟩ :: (ls ++ ⟨.arrow, false⟩ :: ls'))
  | access {o : Node} {k : String} {ls : List Lexeme} {b : Bool}
    (ho : Written b (.one .expression o) ls) (hk : Naming.isIdentifierName k = true)
    (hunsigned : isUnsigned o = false) (c d : Bool) :
    Written b (.one .expression (.memberExpression o (.identifier (.str k)) (.bool false)))
      (ls ++ [⟨.mark '.', c⟩, ⟨.word (settledName k), d⟩])
  | quoted {o : Node} {k : String} {ls : List Lexeme} {b : Bool}
    (ho : Written b (.one .expression o) ls) (hk : Naming.isIdentifierName k = false)
    (c d e : Bool) :
    Written b (.one .expression (.memberExpression o (.identifier (.str k)) (.bool false)))
      (ls ++ [⟨.mark '[', c⟩, ⟨.text k, d⟩, ⟨.mark ']', e⟩])
  | selection {o p : Node} {ls ls' : List Lexeme} {b d : Bool}
    (ho : Written b (.one .expression o) ls) (hp : Written d (.one .expression p) ls')
    (c e : Bool) :
    Written b (.one .expression (.memberExpression o p (.bool true)))
      (ls ++ ⟨.mark '[', c⟩ :: (ls' ++ [⟨.mark ']', e⟩]))
  | operation {operator : String} {t : Token} {a : Node} {ls : List Lexeme} {c : Bool}
    (ht : operatorToken? operator = some t) (ha : Written c (.enclosed (wrapsOperand a) a) ls)
    (hsigns : operator = "-" → isNegative a = false) (b : Bool) :
    Written b (.one .expression (.unaryExpression (.str operator) a)) (⟨t, b⟩ :: ls)
  | assignment {l r : Node} {ls ls' : List Lexeme} {b d : Bool}
    (hl : Written b (.one .expression l) ls) (htarget : isTarget l = true)
    (hr : Written d (.one .expression r) ls') (c : Bool) :
    Written b (.one .expression (.assignmentExpression (.str "=") l r))
      (ls ++ ⟨.mark '=', c⟩ :: ls')
  | call {n : Node} {as : List Node} {ls ls' : List Lexeme} {b d : Bool}
    (hn : Written b (.enclosed (wrapsCallee n) n) ls)
    (has : Written d (.all .expression ')' as) ls') (c : Bool) :
    Written b (.one .expression (.callExpression n as)) (ls ++ ⟨.mark '(', c⟩ :: ls')
  | bare {n : Node} {ls : List Lexeme} {b : Bool} (hn : Written b (.one .expression n) ls) :
    Written b (.enclosed false n) ls
  | parenthesised {n : Node} {ls : List Lexeme} {c : Bool} (hn : Written c (.one .expression n) ls)
    (b d : Bool) : Written b (.enclosed true n) (⟨.mark '(', b⟩ :: (ls ++ [⟨.mark ')', d⟩]))
  | nil (role : Role) (close : Char) (b : Bool) :
    Written b (.all role close []) [⟨.mark close, b⟩]
  | last {role : Role} {n : Node} {ls : List Lexeme} {b : Bool} (hn : Written b (.one role n) ls)
    (close : Char) (c : Bool) : Written b (.all role close [n]) (ls ++ [⟨.mark close, c⟩])
  | next {role : Role} {close : Char} {m n : Node} {ns : List Node} {ls ls' : List Lexeme}
    {b d : Bool} (hn : Written b (.one role n) ls) (hns : Written d (.all role close (m :: ns)) ls')
    (c : Bool) : Written b (.all role close (n :: m :: ns)) (ls ++ ⟨.mark ',', c⟩ :: ls')

section

variable {s : String} {n : Node}

theorem operandOfWord?_cases (h : operandOfWord? s = some n) :
    n = .thisExpression ∨ n = .nullLiteral ∨ (∃ b, n = .booleanLiteral (.bool b)) ∨
      n = .identifier (.str s) := by
  unfold operandOfWord? at h
  split_ifs at h <;> cases h
  · exact Or.inl rfl
  · exact Or.inr (Or.inl rfl)
  · exact Or.inr (Or.inr (Or.inl ⟨true, rfl⟩))
  · exact Or.inr (Or.inr (Or.inl ⟨false, rfl⟩))
  · exact Or.inr (Or.inr (Or.inr rfl))

/-- A word that is no keyword is a name, and none of the operators. -/
theorem word_of_not_keyword (h : keywords.contains s = false) :
    operandOfWord? s = some (.identifier (.str s)) ∧ operator? (.word s) = none := by
  have hne : ∀ k ∈ keywords, s ≠ k := by
    rintro k hk rfl
    rw [List.contains_iff_mem.mpr hk] at h
    cases h
  constructor
  · rw [operandOfWord?, if_neg (hne _ (by decide)), if_neg (hne _ (by decide)),
      if_neg (hne _ (by decide)), if_neg (hne _ (by decide)), h]
    rfl
  · unfold operator?
    split
    all_goals first | rfl | (next heq => cases heq; try exact absurd rfl (hne _ (by decide)))

theorem word_of_isBindable (h : isBindable s = true) :
    operandOfWord? s = some (.identifier (.str s)) ∧ operator? (.word s) = none := by
  rw [isBindable, Bool.and_eq_true, Bool.not_eq_true'] at h
  exact word_of_not_keyword h.1

end

theorem leading_of_operandOfWord? {s : String} {n : Node} (h : operandOfWord? s = some n) :
    leading n = some (.word s) := by
  unfold operandOfWord? at h
  split_ifs at h <;> cases h <;> simp_all [leading]

/-- Whether a piece is written with a token first, where that is known. -/
def Part.BeginsWith : Part → Token → Prop
  | .one .expression n, t => leading n = some t
  | .enclosed true _, t => t = .mark '('
  | .enclosed false n, t => leading n = some t
  | _, _ => True

def Part.Heads (p : Part) (b : Bool) (ls : List Lexeme) : Prop :=
  ∃ t more, ls = ⟨t, b⟩ :: more ∧ p.BeginsWith t

theorem Part.Heads.append {p q : Part} {b : Bool} {ls : List Lexeme} (h : p.Heads b ls)
    (hpq : ∀ t, p.BeginsWith t → q.BeginsWith t) (ls' : List Lexeme) : q.Heads b (ls ++ ls') := by
  obtain ⟨t, more, rfl, ht⟩ := h
  exact ⟨t, more ++ ls', rfl, hpq t ht⟩

theorem Written.heads {b : Bool} {p : Part} {ls : List Lexeme} (h : Written b p ls) :
    p.Heads b ls := by
  induction h with
  | word hs => exact ⟨_, _, rfl, leading_of_operandOfWord? hs⟩
  | text | natural | array | object | function => exact ⟨_, _, rfl, rfl⟩
  | negative i => exact ⟨_, _, rfl, congrArg some (if_pos (by omega))⟩
  | property | binding | nil => exact ⟨_, _, rfl, trivial⟩
  | access _ _ _ _ _ ih => exact ih.append (fun _ => id) _
  | quoted _ _ _ _ _ ih => exact ih.append (fun _ => id) _
  | selection _ _ _ _ ih => exact ih.append (fun _ => id) _
  | operation ht => exact ⟨_, _, rfl, ht⟩
  | assignment _ _ _ _ ih => exact ih.append (fun _ => id) _
  | @call n as _ _ _ _ _ _ _ ih =>
    refine ih.append (fun t ht => ?_) _
    rw [Part.BeginsWith, leading]
    cases hw : wrapsCallee n <;> rw [hw] at ht
    · exact ht
    · exact congrArg some ht.symm
  | bare _ ih => exact ih
  | parenthesised => exact ⟨_, _, rfl, rfl⟩
  | last _ _ _ ih => exact ih.append (fun _ _ => by trivial) _
  | next _ _ _ ih => exact ih.append (fun _ _ => by trivial) _

end Componentry.Script
