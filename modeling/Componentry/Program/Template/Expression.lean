import Componentry.Program.Template.Token
import Componentry.Value.Basic

/-!
# Expressions in templates

An expression is a constant, a name, a member or an element of another expression, or a filter
applied to one. It is read from the tokens of an output or a tag.
-/

namespace Componentry.Program.Template

inductive Expr where
  | constant (v : Value)
  | name (s : String)
  | member (object : Expr) (name : String)
  | element (object : Expr) (index : Nat)
  | filter (operand : Expr) (name : String) (args : List (Option String × Expr))
  deriving Inhabited

def ofName (s : String) : Expr :=
  match s with
  | "true" => .constant (.bool true)
  | "True" => .constant (.bool true)
  | "false" => .constant (.bool false)
  | "False" => .constant (.bool false)
  | "none" => .constant .null
  | "None" => .constant .null
  | s => .name s

/-- The next token and those behind it. A broken token is a problem as soon as it comes next. -/
def next : List Token → Except Problem (Token × List Token)
  | [] => .ok (.ended, [])
  | .broken p :: _ => .error p
  | t :: rest => .ok (t, rest)

def unmet (what : String) : Token → Problem
  | .ended => .endedBefore what
  | t => .unmet what t.found

def expectSymbol (s : String) (ts : List Token) : Except Problem (List Token) := do
  let (t, rest) ← next ts
  match t with
  | .symbol found => if found = s then return rest else throw (unmet s t)
  | t => throw (unmet s t)

def expectName (ts : List Token) : Except Problem (String × List Token) := do
  match ← next ts with
  | (.name s, rest) => return (s, rest)
  | (t, _) => throw (unmet "name" t)

def expectClose (e : Enclosure) (ts : List Token) : Except Problem Unit := do
  match ← next ts with
  | (.close _, _) => return
  | (t, _) => throw (unmet e.closingName t)

def joinedTexts (s : String) : List Token → String × List Token
  | .text t :: rest => joinedTexts (s ++ t) rest
  | rest => (s, rest)

/-- An expression followed by the members and elements that are taken from it, and the tokens behind
them. -/
def readMembers (e : Expr) : List Token → Except Problem (Expr × List Token)
  | .symbol "." :: .name s :: rest => readMembers (.member e s) rest
  | .symbol "." :: .integer n :: rest => readMembers (.element e n) rest
  | .symbol "." :: rest => do
    let (_, rest) ← next rest
    let _ ← next rest
    throw .noMemberName
  | rest => .ok (e, rest)

/-- The name of a filter that begins with `s` and goes on behind points, and the tokens behind
it. -/
def readFilterName (s : String) : List Token → Except Problem (String × List Token)
  | .symbol "." :: .name t :: rest => readFilterName (s ++ "." ++ t) rest
  | .symbol "." :: rest => do
    let (t, _) ← next rest
    throw (unmet "name" t)
  | rest => .ok (s, rest)

mutual

def readExpr : (fuel : Nat) → List Token → Except Problem (Expr × List Token)
  | 0, _ => .error (.unexpected "")
  | fuel + 1, ts => do
    let (e, rest) ← match ← next ts with
      | (.name s, rest) => pure (ofName s, rest)
      | (.text s, rest) =>
        let (s, rest) := joinedTexts s rest
        pure (.constant (.str s), rest)
      | (.integer n, rest) => pure (.constant (.int n), rest)
      | (.float x, rest) => pure (.constant (.float x), rest)
      | (.symbol "(", rest) => do
        let (e, rest) ← readExpr fuel rest
        pure (e, ← expectSymbol ")" rest)
      | (t, _) => throw (.unexpected t.found)
    let (e, rest) ← readMembers e rest
    readFilters fuel e rest

def readFilters : (fuel : Nat) → Expr → List Token → Except Problem (Expr × List Token)
  | fuel + 1, e, .symbol "|" :: rest => do
    let (s, rest) ← expectName rest
    let (s, rest) ← readFilterName s rest
    match rest with
    | .symbol "(" :: rest =>
      let (args, rest) ← readArgs fuel false rest
      readFilters fuel (.filter e s args) rest
    | rest => readFilters fuel (.filter e s []) rest
  | _, e, rest => .ok (e, rest)

/-- The arguments of a filter, behind the opening parenthesis. `named` tells that one of those
before had a name. -/
def readArgs : (fuel : Nat) → (named : Bool) → List Token →
    Except Problem (List (Option String × Expr) × List Token)
  | fuel + 1, named, ts => do
    match ← next ts with
    | (.symbol ")", rest) => return ([], rest)
    | (.name k, .symbol "=" :: rest) =>
      let (e, rest) ← readExpr fuel rest
      let (more, rest) ← readMoreArgs fuel true rest
      return ((some k, e) :: more, rest)
    | _ =>
      if named then throw .misplacedArgument
      let (e, rest) ← readExpr fuel ts
      let (more, rest) ← readMoreArgs fuel false rest
      return ((none, e) :: more, rest)
  | 0, _, _ => .error (.unexpected "")

def readMoreArgs : (fuel : Nat) → (named : Bool) → List Token →
    Except Problem (List (Option String × Expr) × List Token)
  | fuel + 1, named, ts => do
    match ← next ts with
    | (.symbol ")", rest) => return ([], rest)
    | _ => readArgs fuel named (← expectSymbol "," ts)
  | 0, _, _ => .error (.unexpected "")

end

/-- The expression that comes next in an output or a tag, and the tokens behind it. -/
def expression (ts : List Token) : Except Problem (Expr × List Token) := do
  match ← next ts with
  | (.close e, _) => throw (.noExpression e.closingName)
  | _ => readExpr (3 * ts.length + 3) ts

end Componentry.Program.Template
