import Componentry.Value.Basic

/-!
# Equality of values

Numbers are equal by value across truth values, whole numbers and doubles. Texts, runs of bytes,
lists and tuples are equal to their own kind only, maps regardless of the order of their entries,
and nodes if they have the same kind and equal parts; two nodes that stand for a family never are.

A value can be a key unless it holds something that can be changed: a list, a set or a map.
-/

namespace Componentry

def sameNumber : Int ⊕ Double → Int ⊕ Double → Bool
  | .inl i, .inl j => i == j
  | .inl i, .inr y => y.integral? == some i
  | .inr x, .inl j => x.integral? == some j
  | .inr x, .inr y => x.same y

def Value.number? : Value → Option (Int ⊕ Double)
  | .bool b => some (.inl (if b then 1 else 0))
  | .int i => some (.inl i)
  | .float x => some (.inr x)
  | _ => none

/-- Equality of two values at least one of which is not composed of values. -/
def Value.sameLeaf (a b : Value) : Bool :=
  match a.number?, b.number? with
  | some x, some y => sameNumber x y
  | _, _ =>
    match a, b with
    | .null, .null => true
    | .str s, .str t => s == t
    | .bytes s, .bytes t => s == t
    | .ellipsis, .ellipsis => true
    | _, _ => false

mutual

def Value.same : Value → Value → Bool
  | .list xs, .list ys => sameItems xs ys
  | .tuple xs, .tuple ys => sameItems xs ys
  | .set xs, .set ys => sameItems xs ys
  | .map xs, .map ys => xs.length == ys.length && sameEntries xs ys
  | .node m, .node n => m.same n
  | a, b => a.sameLeaf b
termination_by structural a => a

def sameItems : List Value → List Value → Bool
  | [], [] => true
  | x :: xs, y :: ys => x.same y && sameItems xs ys
  | _, _ => false
termination_by structural xs => xs

def sameEntries : List (Value × Value) → List (Value × Value) → Bool
  | [], _ => true
  | (k, v) :: xs, ys => ys.any (fun e => k.same e.1 && v.same e.2) && sameEntries xs ys
termination_by structural xs => xs

def Node.same : Node → Node → Bool
  | .identifier a, .identifier b => a.same b
  | .stringLiteral a, .stringLiteral b => a.same b
  | .numericLiteral a, .numericLiteral b => a.same b
  | .booleanLiteral a, .booleanLiteral b => a.same b
  | .nullLiteral, .nullLiteral => true
  | .thisExpression, .thisExpression => true
  | .arrayExpression a, .arrayExpression b => sameNodes a b
  | .objectProperty k v s, .objectProperty l w t => k.same l && v.same w && s.same t
  | .objectMethod k p b, .objectMethod l q c => k.same l && sameNodes p q && b.same c
  | .objectExpression a, .objectExpression b => sameNodes a b
  | .arrowFunction p b, .arrowFunction q c => sameNodes p q && b.same c
  | .memberExpression o p c, .memberExpression o' p' c' => o.same o' && p.same p' && c.same c'
  | .unaryExpression o a, .unaryExpression o' a' => o.same o' && a.same a'
  | .assignmentExpression o l r, .assignmentExpression o' l' r' =>
    o.same o' && l.same l' && r.same r'
  | .callExpression c a, .callExpression c' a' => c.same c' && sameNodes a a'
  | .expressionStatement a, .expressionStatement b => a.same b
  | .returnStatement none, .returnStatement none => true
  | .returnStatement (some a), .returnStatement (some b) => a.same b
  | .blockStatement a, .blockStatement b => sameNodes a b
  | .exportDefault a, .exportDefault b => a.same b
  | _, _ => false
termination_by structural a => a

def sameNodes : List Node → List Node → Bool
  | [], [] => true
  | x :: xs, y :: ys => x.same y && sameNodes xs ys
  | _, _ => false
termination_by structural xs => xs

end

mutual

def Value.canBeKey : Value → Bool
  | .list _ => false
  | .set _ => false
  | .map _ => false
  | .tuple items => itemsCanBeKeys items
  | .node n => n.canBeKey
  | _ => true

def itemsCanBeKeys : List Value → Bool
  | [] => true
  | x :: xs => x.canBeKey && itemsCanBeKeys xs

/-- Whether a node can be a key of a map: all that it holds must be fit for that. -/
def Node.canBeKey : Node → Bool
  | .family _ => true
  | .identifier a => a.canBeKey
  | .stringLiteral a => a.canBeKey
  | .numericLiteral a => a.canBeKey
  | .booleanLiteral a => a.canBeKey
  | .nullLiteral => true
  | .thisExpression => true
  | .arrayExpression a => nodesCanBeKeys a
  | .objectProperty k v s => k.canBeKey && v.canBeKey && s.canBeKey
  | .objectMethod k p b => k.canBeKey && nodesCanBeKeys p && b.canBeKey
  | .objectExpression a => nodesCanBeKeys a
  | .arrowFunction p b => nodesCanBeKeys p && b.canBeKey
  | .memberExpression o p c => o.canBeKey && p.canBeKey && c.canBeKey
  | .unaryExpression o a => o.canBeKey && a.canBeKey
  | .assignmentExpression o l r => o.canBeKey && l.canBeKey && r.canBeKey
  | .callExpression c a => c.canBeKey && nodesCanBeKeys a
  | .expressionStatement a => a.canBeKey
  | .returnStatement none => true
  | .returnStatement (some a) => a.canBeKey
  | .blockStatement a => nodesCanBeKeys a
  | .exportDefault a => a.canBeKey

def nodesCanBeKeys : List Node → Bool
  | [] => true
  | x :: xs => x.canBeKey && nodesCanBeKeys xs

end

end Componentry
