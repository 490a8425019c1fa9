import Componentry.Proofs.Script.Assembled
import Componentry.Script.Printer

/-!
# Nested expressions

Expressions that nest operators, calls, member accesses, assignments and functions in any way. The
printer puts parentheses around some of their parts, and what it leaves bare is read with the
precedence that it has there. `isKept` tells which expressions keep their nesting, and `staysApart`
which of them stay apart as the statements of a block.
-/

namespace Componentry.Script

/-- A name that can stand for a variable. -/
def IsName (k : String) : Prop :=
  Naming.isIdentifierName k = true ∧ '\n' ∉ k.toList ∧ keywords.contains k = false

instance (k : String) : Decidable (IsName k) := inferInstanceAs (Decidable (_ ∧ _ ∧ _))

/-- The token of an operator with one operand. -/
def operatorToken? : String → Option Token
  | "!" => some (.mark '!')
  | "-" => some (.mark '-')
  | "+" => some (.mark '+')
  | "~" => some (.mark '~')
  | "typeof" => some (.word "typeof")
  | "void" => some (.word "void")
  | "delete" => some (.word "delete")
  | _ => none

mutual

/-- An expression as it is read: names are settled, a minus sign belongs to the numeral behind it,
and a text in brackets is the name of a member. -/
def regrouped : Node → Node
  | .arrayExpression es => .arrayExpression (regroupedAll es)
  | .objectProperty (.identifier (.str k)) v shorthand =>
    .objectProperty (reread (.key k)) (regrouped v) shorthand
  | .objectProperty (.stringLiteral (.str k)) v shorthand =>
    .objectProperty (reread (.key k)) (regrouped v) shorthand
  | .objectExpression ms => .objectExpression (regroupedAll ms)
  | .arrowFunction ps b => .arrowFunction ps (regrouped b)
  | .memberExpression o p (.bool true) => selected (regrouped o) (regrouped p)
  | .memberExpression o p computed => .memberExpression (regrouped o) (reread p) computed
  | .unaryExpression (.str operator) a => applied operator (regrouped a)
  | .assignmentExpression operator l r =>
    .assignmentExpression operator (regrouped l) (regrouped r)
  | .callExpression c as => .callExpression (regrouped c) (regroupedAll as)
  | n => n

def regroupedAll : List Node → List Node
  | [] => []
  | n :: ns => regrouped n :: regroupedAll ns

end

/-- The expressions that are nested here, and the members of their objects. -/
inductive Nested : Role → Node → Prop
  | this : Nested .expression .thisExpression
  | null : Nested .expression .nullLiteral
  | bool (b : Bool) : Nested .expression (.booleanLiteral (.bool b))
  | number (i : Int) : Nested .expression (.numericLiteral (.int i))
  | text (s : String) : Nested .expression (.stringLiteral (.str s))
  | name {k : String} (hk : IsName k) : Nested .expression (.identifier (.str k))
  | array {es : List Node} (hes : ∀ e ∈ es, Nested .expression e) :
    Nested .expression (.arrayExpression es)
  | object {ms : List Node} (hms : ∀ m ∈ ms, Nested .member m) :
    Nested .expression (.objectExpression ms)
  | property {key v : Node} {k : String}
    (hkey : key = .identifier (.str k) ∨ key = .stringLiteral (.str k))
    (hv : Nested .expression v) : Nested .member (.objectProperty key v (.bool false))
  | binding {k : String} (hk : IsName k) : Nested .member
    (.objectProperty (.identifier (.str k)) (.identifier (.str k)) (.bool true))
  | function {ks : List String} {b : Node} (hks : ∀ k ∈ ks, IsName k ∧ isBindable k = true)
    (hb : Nested .expression b) :
    Nested .expression (.arrowFunction (ks.map fun k => .identifier (.str k)) b)
  | access {o : Node} (ho : Nested .expression o) (k : String) :
    Nested .expression (.memberExpression o (.identifier (.str k)) (.bool false))
  | selection {o p : Node} (ho : Nested .expression o) (hp : Nested .expression p) :
    Nested .expression (.memberExpression o p (.bool true))
  | operation {operator : String} {t : Token} {a : Node} (ht : operatorToken? operator = some t)
    (ha : Nested .expression a) : Nested .expression (.unaryExpression (.str operator) a)
  | assignment {l r : Node} (hl : Nested .expression l) (htarget : isTarget l = true)
    (hr : Nested .expression r) : Nested .expression (.assignmentExpression (.str "=") l r)
  | call {c : Node} {as : List Node} (hc : Nested .expression c)
    (has : ∀ a ∈ as, Nested .expression a) : Nested .expression (.callExpression c as)

/-- The token that an expression is written with first. -/
def leading : Node → Option Token
  | .thisExpression => some (.word "this")
  | .nullLiteral => some (.word "null")
  | .booleanLiteral (.bool b) => some (.word (if b then "true" else "false"))
  | .numericLiteral (.int i) => some (if i < 0 then .mark '-' else .number i.natAbs)
  | .stringLiteral (.str s) => some (.text s)
  | .identifier (.str k) => some (.word k)
  | .arrayExpression _ => some (.mark '[')
  | .objectExpression _ => some (.mark '\x7b')
  | .arrowFunction _ _ => some (.mark '(')
  | .memberExpression o _ _ => leading o
  | .unaryExpression (.str operator) _ => operatorToken? operator
  | .assignmentExpression _ l _ => leading l
  | .callExpression c _ => if wrapsCallee c then some (.mark '(') else leading c
  | _ => none

def isNegative : Node → Bool
  | .numericLiteral (.int i) => i < 0
  | _ => false

def isUnsigned : Node → Bool
  | .numericLiteral (.int i) => 0 ≤ i
  | _ => false

/-- Whether a member access or a call behind an expression applies to all of it. -/
def isTight : Node → Bool
  | .memberExpression o _ _ => isTight o
  | .callExpression c _ => wrapsCallee c || isTight c
  | .arrowFunction _ _ => false
  | .unaryExpression _ _ => false
  | .assignmentExpression _ _ _ => false
  | n => !isNegative n

/-- Whether a property is written behind a point. -/
def followsPoint : Node → Bool
  | .identifier (.str k) => Naming.isIdentifierName k
  | _ => false

mutual

/-- Whether an expression keeps its nesting when it is printed: the objects of its accesses and the
functions of its calls hold together, a numeral has no point behind it and a minus sign no other
one, and the body of a function begins with no brace unless it is an object. -/
def isKept : Node → Bool
  | .arrayExpression es => areKept es
  | .objectExpression ms => areKept ms
  | .objectProperty _ v _ => isKept v
  | .arrowFunction _ b => isKept b && (wrapsBody b || leading b ≠ some (.mark '\x7b'))
  | .memberExpression o p (.bool true) => isKept o && isTight o && isKept p
  | .memberExpression o p _ => isKept o && isTight o && !(isUnsigned o && followsPoint p)
  | .unaryExpression (.str operator) a => isKept a && !(operator = "-" && isNegative a)
  | .assignmentExpression _ l r => isKept l && isKept r
  | .callExpression c as => isKept c && (wrapsCallee c || isTight c) && areKept as
  | _ => true

def areKept : List Node → Bool
  | [] => true
  | n :: ns => isKept n && areKept ns

end

def statementBlock (es : List Node) : Node := .blockStatement (es.map .expressionStatement)

/-- Whether expressions stay apart as the statements of a block: each keeps its nesting and begins
with no brace, and unless semicolons end them, none but the first begins with a token that could go
on with the line before. -/
def staysApart (terminated : Bool) (es : List Node) : Bool :=
  es.all (fun e => isKept e && leading e ≠ some (.mark '\x7b')) &&
    (terminated || es.tail.all fun e => (leading e).all fun t => !t.continues)

/-- The block that a text is. -/
def readBlock (text : String) : Option Node := do
  let ls ← lexemes false text.toList
  match ← body (expression ls.length) (← behindMark? '\x7b' ls) with
  | (block, []) => if isLegal block then some block else none
  | _ => none

theorem regroupedAll_eq_map (ns : List Node) : regroupedAll ns = ns.map regrouped := by
  induction ns with
  | nil => rfl
  | cons n ns ih => rw [regroupedAll, ih, List.map_cons]

theorem areKept_iff {ns : List Node} : areKept ns = true ↔ ∀ n ∈ ns, isKept n = true := by
  induction ns with
  | nil => exact ⟨fun _ => nofun, fun _ => rfl⟩
  | cons n ns ih => rw [areKept, Bool.and_eq_true, ih, List.forall_mem_cons]

/-- How many accesses and calls follow the operand that an expression begins with. -/
def suffixes : Node → Nat
  | .memberExpression o _ _ => suffixes o + 1
  | .callExpression c _ => suffixes c + 1
  | _ => 0

/-- The operand that an expression begins with. -/
def base : Node → Node
  | .memberExpression o _ _ => base o
  | .callExpression c _ => base c
  | n => n

def isFunction : Node → Bool
  | .arrowFunction _ _ => true
  | _ => false

def isAssignment : Node → Bool
  | .assignmentExpression _ _ _ => true
  | _ => false

section

variable {operator : String} {a b o p : Node}

theorem applied_cases (operator : String) (a : Node) :
    (∃ i : Int, 0 < i ∧ operator = "-" ∧ a = .numericLiteral (.int i) ∧
      applied operator a = .numericLiteral (.int (-i))) ∨
    applied operator a = .unaryExpression (.str operator) a := by
  unfold applied
  split
  · split_ifs with h
    · exact Or.inl ⟨_, h.2, h.1, rfl, rfl⟩
    · exact Or.inr rfl
  · exact Or.inr rfl

theorem applied_injective (h : applied operator a = applied operator b) : a = b := by
  obtain ⟨i, -, -, rfl, ha⟩ | ha := applied_cases operator a <;>
    obtain ⟨j, -, -, rfl, hb⟩ | hb := applied_cases operator b <;>
    rw [ha, hb] at h
  · rw [Int.neg_inj.mp (Value.int.inj (Node.numericLiteral.inj h))]
  · cases h
  · cases h
  · exact (Node.unaryExpression.inj h).2

@[simp] theorem suffixes_applied (operator : String) (a : Node) :
    suffixes (applied operator a) = 0 := by
  obtain ⟨i, -, -, -, h⟩ | h := applied_cases operator a <;> rw [h] <;> rfl

@[simp] theorem isTarget_applied (operator : String) (a : Node) :
    isTarget (applied operator a) = false := by
  obtain ⟨i, -, -, -, h⟩ | h := applied_cases operator a <;> rw [h] <;> rfl

@[simp] theorem isAssignment_applied (operator : String) (a : Node) :
    isAssignment (base (applied operator a)) = false := by
  obtain ⟨i, -, -, -, h⟩ | h := applied_cases operator a <;> rw [h] <;> rfl

theorem isTight_natural (i : Nat) : isTight (.numericLiteral (.int i)) = true := by
  rw [isTight, isNegative, decide_eq_false (by omega)]
  · rfl
  all_goals nofun

theorem isTight_negative (i : Nat) : isTight (.numericLiteral (.int (-(i + 1 : Nat)))) = false := by
  rw [isTight, isNegative, decide_eq_true (by omega)]
  · rfl
  all_goals nofun

theorem selected_eq (o p : Node) : ∃ q c, selected o p = .memberExpression o q c := by
  unfold selected
  split <;> exact ⟨_, _, rfl⟩

theorem selected_injective {q : Node} (h : selected o p = selected o q) : p = q := by
  unfold selected at h
  split at h <;> split at h <;> simp_all

@[simp] theorem suffixes_selected (o p : Node) : suffixes (selected o p) = suffixes o + 1 := by
  obtain ⟨q, c, h⟩ := selected_eq o p
  rw [h, suffixes]

theorem regrouped_member (o p : Node) (c : Value) :
    ∃ q d, regrouped (.memberExpression o p c) = .memberExpression (regrouped o) q d := by
  by_cases hc : c = .bool true
  · rw [hc, regrouped]
    exact selected_eq _ _
  · rw [regrouped]
    · exact ⟨_, _, rfl⟩
    · exact hc

theorem regrouped_access (o p : Node) : regrouped (.memberExpression o p (.bool false)) =
    .memberExpression (regrouped o) (reread p) (.bool false) := by
  rw [regrouped]
  nofun

theorem isKept_access (o p : Node) : isKept (.memberExpression o p (.bool false)) =
    (isKept o && isTight o && !(isUnsigned o && followsPoint p)) := by
  rw [isKept]
  nofun

theorem wrapsOperand_of_isTarget (h : isTarget o = true) : wrapsOperand o = false := by
  cases o <;> first | rfl | cases h

theorem base_regrouped_member (o p : Node) (c : Value) :
    base (regrouped (.memberExpression o p c)) = base (regrouped o) := by
  obtain ⟨q, d, h⟩ := regrouped_member o p c
  rw [h, base]

theorem isTight_of_isKept {c : Value} (h : isKept (.memberExpression o p c) = true) :
    isKept o = true ∧ isTight o = true := by
  by_cases hc : c = .bool true
  · rw [hc, isKept, Bool.and_eq_true, Bool.and_eq_true] at h
    exact h.1
  · rw [isKept, Bool.and_eq_true, Bool.and_eq_true] at h
    · exact h.1
    · exact hc

end

/-- The expressions that begin with an expression and go on with accesses and calls. -/
inductive Begins (n : Node) : Node → Prop
  | refl : Begins n n
  | member {m : Node} (h : Begins n m) (p : Node) (c : Value) : Begins n (.memberExpression m p c)
  | call {m : Node} (h : Begins n m) (as : List Node) : Begins n (.callExpression m as)

section

variable {l m n : Node}

theorem Begins.base_eq (h : Begins n m) : base m = base n := by
  induction h with
  | refl => rfl
  | member h p c ih => rw [base, ih]
  | call h as ih => rw [base, ih]

theorem Begins.suffixes_le (h : Begins n m) : suffixes n ≤ suffixes m := by
  induction h with
  | refl => exact Nat.le_refl _
  | member h p c ih => exact Nat.le_succ_of_le ih
  | call h as ih => exact Nat.le_succ_of_le ih

theorem Begins.trans (h : Begins l m) (h' : Begins m n) : Begins l n := by
  induction h' with
  | refl => exact h
  | member _ p c ih => exact ih.member p c
  | call _ as ih => exact ih.call as

/-- An expression begins with one expression of each length. -/
theorem Begins.eq_of_suffixes (h : Begins l n) (h' : Begins m n)
    (hsuffixes : suffixes l = suffixes m) : l = m := by
  induction h with
  | refl =>
    cases h' with
    | refl => rfl
    | member h' p c =>
      have := h'.suffixes_le
      rw [suffixes] at hsuffixes
      omega
    | call h' as =>
      have := h'.suffixes_le
      rw [suffixes] at hsuffixes
      omega
  | member h p c ih =>
    cases h' with
    | refl =>
      have := h.suffixes_le
      rw [suffixes] at hsuffixes
      omega
    | member h' => exact ih h'
  | call h as ih =>
    cases h' with
    | refl =>
      have := h.suffixes_le
      rw [suffixes] at hsuffixes
      omega
    | call h' => exact ih h'

theorem begins_selected (o p : Node) : Begins o (selected o p) := by
  obtain ⟨q, c, h⟩ := selected_eq o p
  rw [h]
  exact Begins.refl.member q c

end

end Componentry.Script
