import Componentry.Proofs.Script.Lexeme
import Componentry.Value.Basic

/-!
# Reading the script

The grammar of the part of the script that descriptions are turned into, read from the left without
going back. An expression is an arrow function, an assignment, or an operand behind any number of
operators; an operand is followed by member accesses and calls. Each production is a reader over a
given reader of whole expressions, and `expression` ties the knot.

A member in brackets under a literal key is read as the member of that name, and a minus sign before
a numeral as part of the number. Where a statement has no semicolon, one is supplied before a
closing brace, at the end of the text, and at a line end behind which the statement cannot go on.
What is read is then checked against the rules that no production states, see `Node.isLegal`.
-/

namespace Componentry.Script

/-- What stands at the start of lexemes, and the lexemes behind it. -/
abbrev Reader (α : Type) := List Lexeme → Option (α × List Lexeme)

def behindMark? (c : Char) : List Lexeme → Option (List Lexeme)
  | ⟨.mark d, _⟩ :: rest => if d = c then some rest else none
  | _ => none

theorem behindMark?_mark (c : Char) (b : Bool) (ls : List Lexeme) :
    behindMark? c (⟨.mark c, b⟩ :: ls) = some ls := if_pos rfl

theorem behindMark?_of_ne {c : Char} {t : Token} (h : t ≠ .mark c) (b : Bool) (ls : List Lexeme) :
    behindMark? c (⟨t, b⟩ :: ls) = none := by
  cases t with
  | mark d => exact if_neg fun hd => h (congrArg Token.mark hd)
  | word s => rfl
  | text s => rfl
  | number n => rfl
  | arrow => rfl

def keywords : List String := [
  "await", "break", "case", "catch", "class", "const", "continue", "debugger", "default", "delete",
  "do", "else", "enum", "export", "extends", "false", "finally", "for", "function", "if",
  "implements", "import", "in", "instanceof", "interface", "let", "new", "null", "package",
  "private", "protected", "public", "return", "static", "super", "switch", "this", "throw", "true",
  "try", "typeof", "var", "void", "while", "with", "yield"]

/-- The names that are no keywords but cannot be bound or assigned. -/
def fixedNames : List String := ["arguments", "eval"]

def isBindable (s : String) : Bool := !keywords.contains s && !fixedNames.contains s

def operandOfWord? (s : String) : Option Node :=
  if s = "this" then some .thisExpression
  else if s = "null" then some .nullLiteral
  else if s = "true" then some (.booleanLiteral (.bool true))
  else if s = "false" then some (.booleanLiteral (.bool false))
  else if keywords.contains s then none
  else some (.identifier (.str s))

def operator? : Token → Option String
  | .mark '!' => some "!"
  | .mark '-' => some "-"
  | .mark '+' => some "+"
  | .mark '~' => some "~"
  | .word "typeof" => some "typeof"
  | .word "void" => some "void"
  | .word "delete" => some "delete"
  | _ => none

/-- An operator applied to an operand; a minus sign before a positive numeral belongs to it. -/
def applied (operator : String) (operand : Node) : Node :=
  match operand with
  | .numericLiteral (.int n) =>
    if operator = "-" ∧ 0 < n then .numericLiteral (.int (-n))
    else .unaryExpression (.str operator) operand
  | _ => .unaryExpression (.str operator) operand

/-- The member that brackets behind an object select. -/
def selected (object key : Node) : Node :=
  match key with
  | .stringLiteral name => .memberExpression object (.identifier name) (.bool false)
  | _ => .memberExpression object key (.bool true)

def isTarget : Node → Bool
  | .identifier (.str s) => isBindable s
  | .memberExpression _ _ _ => true
  | _ => false

/-- Items with commas between them, up to a closing mark; a comma may stand behind the last one. -/
def separated {α : Type} (item : Reader α) (close : Char) : Nat → Reader (List α)
  | 0, _ => none
  | fuel + 1, ls =>
    match behindMark? close ls with
    | some rest => some ([], rest)
    | none => do
      let (a, rest) ← item ls
      match behindMark? ',' rest with
      | some rest => do
        let (as, rest) ← separated item close fuel rest
        return (a :: as, rest)
      | none => return ([a], ← behindMark? close rest)

def repeated {α : Type} (item : Reader α) (close : Char) : Nat → Reader (List α)
  | 0, _ => none
  | fuel + 1, ls =>
    match behindMark? close ls with
    | some rest => some ([], rest)
    | none => do
      let (a, rest) ← item ls
      let (as, rest) ← repeated item close fuel rest
      return (a :: as, rest)

section

variable {α : Type} {item : Reader α} {close : Char} {fuel : Nat} {t : Token}
  {ls rest tail : List Lexeme} {a : α} {as : List α} {b e : Bool}

theorem separated_close (item : Reader α) (close : Char) (fuel : Nat) (b : Bool)
    (tail : List Lexeme) :
    separated item close (fuel + 1) (⟨.mark close, b⟩ :: tail) = some ([], tail) := by
  rw [separated, behindMark?_mark]

theorem separated_last (ht : t ≠ .mark close) (hne : close ≠ ',')
    (h : item (⟨t, b⟩ :: ls) = some (a, ⟨.mark close, e⟩ :: tail)) :
    separated item close (fuel + 1) (⟨t, b⟩ :: ls) = some ([a], tail) := by
  have hcomma : Token.mark close ≠ .mark ',' := by simpa using hne
  simp only [separated, behindMark?_of_ne ht, h, behindMark?_of_ne hcomma, behindMark?_mark,
    Option.bind_eq_bind, Option.bind_some, Option.pure_def]

theorem separated_next (ht : t ≠ .mark close)
    (h : item (⟨t, b⟩ :: ls) = some (a, ⟨.mark ',', e⟩ :: rest))
    (hrest : separated item close fuel rest = some (as, tail)) :
    separated item close (fuel + 1) (⟨t, b⟩ :: ls) = some (a :: as, tail) := by
  simp only [separated, behindMark?_of_ne ht, h, behindMark?_mark, hrest, Option.bind_eq_bind,
    Option.bind_some, Option.pure_def]

theorem repeated_close (item : Reader α) (close : Char) (fuel : Nat) (b : Bool)
    (tail : List Lexeme) :
    repeated item close (fuel + 1) (⟨.mark close, b⟩ :: tail) = some ([], tail) := by
  rw [repeated, behindMark?_mark]

theorem repeated_next (ht : t ≠ .mark close) (h : item (⟨t, b⟩ :: ls) = some (a, rest))
    (hrest : repeated item close fuel rest = some (as, tail)) :
    repeated item close (fuel + 1) (⟨t, b⟩ :: ls) = some (a :: as, tail) := by
  simp only [repeated, behindMark?_of_ne ht, h, hrest, Option.bind_eq_bind, Option.bind_some,
    Option.pure_def]

end

def parameter : Reader Node
  | ⟨.word s, _⟩ :: rest => if isBindable s then some (.identifier (.str s), rest) else none
  | _ => none

def parameters (ls : List Lexeme) : Option (List Node × List Lexeme) :=
  separated parameter ')' (ls.length + 1) ls

/-- Whether a token goes on with an expression that has been read. -/
def Token.extends : Token → Bool
  | .mark c => c = '(' || c = '[' || c = '.' || c = '='
  | .arrow => true
  | _ => false

/-- Whether a token goes on with a statement that could also end before it. -/
def Token.continues : Token → Bool
  | .mark c => Token.extends (.mark c) || c = ',' || c = '+' || c = '-'
  | .arrow => true
  | .word s => s = "in" || s = "instanceof"
  | _ => false

/-- The lexemes behind the end of a statement. -/
def endOfStatement? : List Lexeme → Option (List Lexeme)
  | [] => some []
  | l :: rest =>
    if l.token = .mark ';' then some rest
    else if l.token = .mark '\x7d' ∨ l.broken ∧ l.token.continues = false then some (l :: rest)
    else none

/-- A statement of a function. A return at the end of its line returns nothing; blocks within
functions are left out. -/
def statement (expr : Reader Node) : Reader Node
  | [] => none
  | l :: ls =>
    if l.token = .mark '\x7b' then none
    else if l.token = .word "return" then
      if ls.head?.any fun next =>
          !next.broken && next.token ≠ .mark ';' && next.token ≠ .mark '\x7d' then do
        let (e, rest) ← expr ls
        return (.returnStatement (some e), ← endOfStatement? rest)
      else do return (.returnStatement none, ← endOfStatement? ls)
    else do
      let (e, rest) ← expr (l :: ls)
      return (.expressionStatement e, ← endOfStatement? rest)

def body (expr : Reader Node) : Reader Node := fun ls => do
  let (statements, rest) ← repeated (statement expr) '\x7d' (ls.length + 1) ls
  return (.blockStatement statements, rest)

def key : Reader Node
  | ⟨.word s, _⟩ :: rest => some (.identifier (.str s), rest)
  | ⟨.text s, _⟩ :: rest => some (.stringLiteral (.str s), rest)
  | _ => none

/-- A member of an object: a value or a method under a key, or a name that stands for both. -/
def member (expr : Reader Node) : Reader Node := fun ls => do
  let (k, rest) ← key ls
  match behindMark? ':' rest, behindMark? '(' rest with
  | some rest, _ => do
    let (value, rest) ← expr rest
    return (.objectProperty k value (.bool false), rest)
  | none, some rest => do
    let (params, rest) ← parameters rest
    let (block, rest) ← body expr (← behindMark? '\x7b' rest)
    return (.objectMethod k params block, rest)
  | none, none =>
    match k with
    | .identifier (.str s) =>
      if keywords.contains s then none else some (.objectProperty k k (.bool true), rest)
    | _ => none

def primary (expr : Reader Node) : Reader Node
  | ⟨.word s, _⟩ :: rest => (operandOfWord? s).map (·, rest)
  | ⟨.text s, _⟩ :: rest => some (.stringLiteral (.str s), rest)
  | ⟨.number n, _⟩ :: rest => some (.numericLiteral (.int n), rest)
  | ⟨.mark '[', _⟩ :: rest => do
    let (items, rest) ← separated expr ']' (rest.length + 1) rest
    return (.arrayExpression items, rest)
  | ⟨.mark '\x7b', _⟩ :: rest => do
    let (members, rest) ← separated (member expr) '\x7d' (rest.length + 1) rest
    return (.objectExpression members, rest)
  | ⟨.mark '(', _⟩ :: rest => do
    let (e, rest) ← expr rest
    return (e, ← behindMark? ')' rest)
  | _ => none

/-- An operand with the member accesses and calls that follow it. -/
def suffixed (expr : Reader Node) : Nat → Node → Reader Node
  | 0, _, _ => none
  | fuel + 1, object, ls =>
    match ls with
    | ⟨.mark '.', _⟩ :: ⟨.word s, _⟩ :: rest =>
      suffixed expr fuel (.memberExpression object (.identifier (.str s)) (.bool false)) rest
    | ⟨.mark '.', _⟩ :: _ => none
    | ⟨.mark '[', _⟩ :: rest => do
      let (k, rest) ← expr rest
      suffixed expr fuel (selected object k) (← behindMark? ']' rest)
    | ⟨.mark '(', _⟩ :: rest => do
      let (arguments, rest) ← separated expr ')' (rest.length + 1) rest
      suffixed expr fuel (.callExpression object arguments) rest
    | ls => some (object, ls)

def operand (expr : Reader Node) : Reader Node
  | [] => none
  | l :: ls =>
    match operator? l.token with
    | some operator => do
      let (argument, rest) ← operand expr ls
      return (applied operator argument, rest)
    | none => do
      let (object, rest) ← primary expr (l :: ls)
      suffixed expr (rest.length + 1) object rest

/-- The parameters of an arrow function, behind its arrow, if one comes first. No line ends before
the arrow. -/
def arrowHead? (ls : List Lexeme) : Option (List Node × List Lexeme) :=
  let params : Option (List Node × List Lexeme) :=
    match behindMark? '(' ls with
    | some rest => parameters rest
    | none => (parameter ls).map fun r => ([r.1], r.2)
  match params with
  | some (ps, ⟨.arrow, false⟩ :: rest) => some (ps, rest)
  | _ => none

/-- An expression whose parts are read by a given reader. -/
def expressionOver (expr : Reader Node) : Reader Node := fun ls =>
  match arrowHead? ls with
  | some (params, rest) => do
    let (block, rest) ← match behindMark? '\x7b' rest with
      | some inside => body expr inside
      | none => expr rest
    return (.arrowFunction params block, rest)
  | none => do
    let (left, rest) ← operand expr ls
    match behindMark? '=' rest with
    | some rest => do
      let (right, rest) ← if isTarget left then expr rest else none
      return (.assignmentExpression (.str "=") left right, rest)
    | none => return (left, rest)

def expression : (depth : Nat) → Reader Node
  | 0 => fun _ => none
  | depth + 1 => expressionOver (expression depth)

def declaration? : List Lexeme → Option Node
  | ⟨.word "export", _⟩ :: ⟨.word "default", _⟩ :: ls => do
    let (e, rest) ← expression ls.length ls
    match ← endOfStatement? rest with
    | [] => return .exportDefault e
    | _ => none
  | _ => none

def memberName? : Node → Option String
  | .identifier (.str s) => some s
  | .stringLiteral (.str s) => some s
  | _ => none

def prototypeName : String := "__proto__"

def setsPrototype : Node → Bool
  | .objectProperty k _ (.bool false) => memberName? k = some prototypeName
  | _ => false

mutual

/-- No object gives its prototype twice, and no function has two parameters of one name. -/
def isLegal : Node → Bool
  | .arrayExpression es => areLegal es
  | .objectProperty k v _ => isLegal k && isLegal v
  | .objectMethod k ps b => isLegal k && (ps.map memberName?).Nodup && isLegal b
  | .objectExpression ms => ms.countP setsPrototype ≤ 1 && areLegal ms
  | .arrowFunction ps b => (ps.map memberName?).Nodup && isLegal b
  | .memberExpression o p _ => isLegal o && isLegal p
  | .unaryExpression _ a => isLegal a
  | .assignmentExpression _ l r => isLegal l && isLegal r
  | .callExpression c as => isLegal c && areLegal as
  | .expressionStatement e => isLegal e
  | .returnStatement (some e) => isLegal e
  | .blockStatement ss => areLegal ss
  | .exportDefault d => isLegal d
  | _ => true

def areLegal : List Node → Bool
  | [] => true
  | n :: ns => isLegal n && areLegal ns

end

def readDeclaration (text : String) : Option Node := do
  let n ← declaration? (← lexemes false text.toList)
  if isLegal n then some n else none

def readExpression (text : String) : Option Node := do
  let ls ← lexemes false text.toList
  match expression ls.length ls with
  | some (e, []) => if isLegal e then some e else none
  | _ => none

end Componentry.Script
