import Componentry.Proofs.Script.Carried

/-!
# Trees of syntax

What may hold of a node and of all nodes below it: that its values have the types that they are
meant to have, that it has no line feed where printing writes it as it is, that the keys in it are
written on one line, and that the numbers in it can be written.
-/

namespace Componentry

namespace Node

/-- The nodes that a node is made of. -/
def children : Node → List Node
  | arrayExpression elements => elements
  | objectProperty key value _ => [key, value]
  | objectMethod key params body => key :: body :: params
  | objectExpression properties => properties
  | arrowFunction params body => body :: params
  | memberExpression object property _ => [object, property]
  | unaryExpression _ argument => [argument]
  | assignmentExpression _ left right => [left, right]
  | callExpression callee arguments => callee :: arguments
  | expressionStatement expression => [expression]
  | returnStatement argument => argument.toList
  | blockStatement body => body
  | exportDefault declaration => [declaration]
  | _ => []

/-- A property holds of a node and of all nodes below it. -/
inductive Everywhere (P : Node → Prop) : Node → Prop
  | intro {n : Node} (here : P n) (below : ∀ m ∈ n.children, Everywhere P m) : Everywhere P n

theorem everywhere_iff {P : Node → Prop} {n : Node} :
    n.Everywhere P ↔ P n ∧ ∀ m ∈ n.children, m.Everywhere P :=
  ⟨fun ⟨here, below⟩ => ⟨here, below⟩, fun ⟨here, below⟩ => .intro here below⟩

theorem Everywhere.here {P : Node → Prop} {n : Node} (h : n.Everywhere P) : P n :=
  (everywhere_iff.mp h).1

theorem Everywhere.children {P : Node → Prop} {n : Node} (h : n.Everywhere P) :
    ∀ m ∈ n.children, m.Everywhere P := (everywhere_iff.mp h).2

/-- The values in a node have the types that they are meant to have, and a shorthand binds an
identifier to an identifier. -/
def IsTyped : Node → Prop
  | identifier name => ∃ k, name = .str k
  | stringLiteral value => ∃ s, value = .str s
  | numericLiteral value => Script.IsNumber value ∨ ∃ b, value = .bool b
  | booleanLiteral value => ∃ b, value = .bool b
  | objectProperty key value shorthand => ∃ b, shorthand = .bool b ∧
    (b = true → ∃ k v, key = .identifier k ∧ value = .identifier v)
  | memberExpression _ _ computed => ∃ b, computed = .bool b
  | unaryExpression operator _ => ∃ s, operator = .str s
  | assignmentExpression operator _ _ => ∃ s, operator = .str s
  | _ => True

/-- The name of an identifier and an operator, which are written as they are, have no line feed. -/
def StaysOnLine : Node → Prop
  | identifier name => ∀ k, name = .str k → '\n' ∉ k.toList
  | unaryExpression operator _ => ∀ s, operator = .str s → '\n' ∉ s.toList
  | assignmentExpression operator _ _ => ∀ s, operator = .str s → '\n' ∉ s.toList
  | _ => True

/-- The key of a member, if it is a literal that is written bare, has no line feed. -/
def KeepsKey (n : Node) : Prop :=
  ∀ k, n.memberKey = .ok (.stringLiteral (.str k)) → Naming.isIdentifierName k = true →
    '\n' ∉ k.toList

/-- A number can be written: it has no more digits than that. -/
def HasNumeral : Node → Prop
  | numericLiteral value => ∃ s, Script.numeral value = .ok s
  | _ => True

theorem everywhere_keepsKey_iff {n : Node} (h : n.memberKey = Result.fault .memberless) :
    n.Everywhere KeepsKey ↔ ∀ m ∈ n.children, m.Everywhere KeepsKey := by
  have hkey : n.KeepsKey := fun k hk => nomatch h.symm.trans hk
  rw [everywhere_iff, and_iff_right hkey]

theorem keepsKey_iff {n key : Node} (h : n.memberKey = .ok key) :
    n.KeepsKey ↔ ∀ k, key = .stringLiteral (.str k) → Naming.isIdentifierName k = true →
      '\n' ∉ k.toList := by
  simp only [KeepsKey, h, Except.ok.injEq]

theorem everywhere_leaf {n : Node} (h : n.memberKey = Result.fault .memberless)
    (hchildren : n.children = []) : n.Everywhere KeepsKey := by
  rw [everywhere_keepsKey_iff h, hchildren]
  exact nofun

end Node

end Componentry
