import Componentry.Program.Template.Expression
import Componentry.Program.Template.Source

/-!
# Templates

A template is a sequence of parts: texts, outputs of expressions, and choices between parts by a
condition. Tags that end what no tag has begun are unknown tags.
-/

namespace Componentry.Program.Template

inductive Part where
  | text (s : String)
  | output (e : Expr)
  | choice (condition : Expr) (yes no : List Part)

/-- The choices of a block that has not ended, last first, each with its condition and its parts. -/
structure Block where
  before : List Part
  choices : List (Expr × List Part)
  condition : Option Expr

def Block.awaited (b : Block) : List String :=
  if b.condition.isSome then ["elif", "else", "endif"] else ["endif"]

def Block.close (b : Block) (last : List Part) : List Part :=
  let (choices, otherwise) := match b.condition with
    | some e => ((e, last) :: b.choices, [])
    | none => (b.choices, last)
  choices.foldl (fun no c => [.choice c.1 c.2 no]) otherwise

/-- The parts that have been read, last first, and the blocks around them, innermost first. -/
structure Reading where
  parts : List Part
  blocks : List Block

namespace Reading

def awaited (r : Reading) : List String := (r.blocks.head?.map Block.awaited).getD []

def outer (r : Reading) : List String := r.blocks.tail.flatMap Block.awaited

def push (r : Reading) (p : Part) : Reading := { r with parts := p :: r.parts }

/-- Checks that a tag ends here; a colon may stand before its closing mark. -/
def endOfTag (ts : List Token) : Except Problem Unit := do
  match ← next ts with
  | (.symbol ":", rest) => expectClose .tag rest
  | _ => expectClose .tag ts

def condition (ts : List Token) : Except Problem Expr := do
  let (e, rest) ← expression ts
  endOfTag rest
  return e

def tag (r : Reading) (name : String) (rest : List Token) : Except Problem Reading := do
  if name = "if" then
    return ⟨[], ⟨r.parts, [], some (← condition rest)⟩ :: r.blocks⟩
  if !r.awaited.contains name then throw (.unknownTag name r.awaited r.outer)
  match r.blocks with
  | [] => throw (.unknownTag name [] [])
  | b :: blocks =>
    let choice := b.condition.toList.map fun e => (e, r.parts.reverse)
    if name = "elif" then
      return ⟨[], ⟨b.before, choice ++ b.choices, some (← condition rest)⟩ :: blocks⟩
    else if name = "else" then
      endOfTag rest
      return ⟨[], ⟨b.before, choice ++ b.choices, none⟩ :: blocks⟩
    else
      expectClose .tag rest
      return ⟨(b.close r.parts.reverse).reverse ++ b.before, blocks⟩

def piece (r : Reading) : Piece → Except Problem Reading
  | .text s => .ok (r.push (.text s))
  | .broken p => .error p
  | .inside .output ts => do
    let (e, rest) ← expression ts
    expectClose .output rest
    return r.push (.output e)
  | .inside .tag ts => do
    match ← next ts with
    | (.name s, rest) => r.tag s rest
    | _ => throw .noTagName

def finish (r : Reading) : Except Problem (List Part) :=
  if r.blocks.isEmpty then .ok r.parts.reverse else .error (.unfinishedBlock r.awaited)

end Reading

def commentFilter : String := "comment"

mutual

def Expr.unknownFilter? : Expr → Option String
  | .constant _ => none
  | .name _ => none
  | .member e _ => e.unknownFilter?
  | .element e _ => e.unknownFilter?
  | .filter e f args =>
    if f ≠ commentFilter then some f else e.unknownFilter?.or (unknownFilterArgs? args)

def unknownFilterArgs? : List (Option String × Expr) → Option String
  | [] => none
  | (_, e) :: rest => e.unknownFilter?.or (unknownFilterArgs? rest)

end

/-- The unknown filter of an output; those within choices are found only when they are used. -/
def Part.unknownFilter? : Part → Option String
  | .text _ => none
  | .output e => e.unknownFilter?
  | .choice _ _ _ => none

mutual

def Expr.names : Expr → List String
  | .constant _ => []
  | .name s => [s]
  | .member e _ => e.names
  | .element e _ => e.names
  | .filter e _ args => e.names ++ namesOfArgs args

def namesOfArgs : List (Option String × Expr) → List String
  | [] => []
  | (_, e) :: rest => e.names ++ namesOfArgs rest

end

mutual

def Part.names : Part → List String
  | .text _ => []
  | .output e => e.names
  | .choice condition yes no => condition.names ++ namesOfParts yes ++ namesOfParts no

def namesOfParts : List Part → List String
  | [] => []
  | p :: ps => p.names ++ namesOfParts ps

end

def parts (source : List Char) : Except Problem (List Part) := do
  let r ← (pieces source).foldlM Reading.piece ⟨[], []⟩
  let ps ← r.finish
  match ps.findSome? Part.unknownFilter? with
  | some f => throw (.unknownFilter f)
  | none => return ps

end Componentry.Program.Template
