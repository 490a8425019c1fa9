import Componentry.Program.Template.Part
import Componentry.Program.Template.Scope
import Componentry.Template.Frame

/-!
# Rendering templates

The parts of a template are rendered one after the other in a context of named values. Values are
inserted as text; what the context does not have is inserted as nothing and counts as false, but
nothing can be taken from it. Templates for markup escape the values that they insert.
-/

namespace Componentry.Program.Template

open Componentry.Template (comment)

def markerName : String := "style"

def givenArguments : List String := ["self", "value"]

/-- The marker that arguments with names give, if any; `given` tells that an argument without a name
gives one. -/
def namedMarker (given : Bool) :
    List (String × Evaluated) → Except Problem (Option String)
  | [] => .ok none
  | (k, v) :: rest => do
    match givenArguments.find? (Text.compatible k) with
    | some name => throw (.repeatedArgument name)
    | none =>
      if !Text.compatible k markerName then throw (.unknownArgument k)
      if given then throw (.repeatedArgument markerName)
      match ← namedMarker given rest with
      | some marker => return marker
      | none => return (← v.shown)

def markerOf (args : List (Option String × Evaluated)) : Except Problem String := do
  let unnamed := args.filterMap fun a => if a.1.isNone then some a.2 else none
  let named := args.filterMap fun a => a.1.map (·, a.2)
  let marker ← namedMarker (!unnamed.isEmpty) named
  match unnamed with
  | [] => return marker.getD "//"
  | [v] => v.shown
  | vs => throw (.tooManyArguments vs.length)

mutual

def Expr.evaluate (scope : Scope) : Expr → Except Problem Evaluated
  | .constant v => .ok (.value v)
  | .name s => .ok (scope.lookup s)
  | .member e s => do memberOf s (← e.evaluate scope)
  | .element e i => do elementOf i (← e.evaluate scope)
  | .filter e f args => do
    let operand ← e.evaluate scope
    let args ← evaluateArgs scope args
    if f ≠ commentFilter then throw (.missingFilter f)
    let marker ← markerOf args
    return .value (.str (comment marker (← operand.shown)))

def evaluateArgs (scope : Scope) :
    List (Option String × Expr) → Except Problem (List (Option String × Evaluated))
  | [] => .ok []
  | (k, e) :: rest => do
    let v ← e.evaluate scope
    return (k, v) :: (← evaluateArgs scope rest)

end

def escapedChar (c : Char) : List Char :=
  match c with
  | '&' => "&amp;".toList
  | '<' => "&lt;".toList
  | '>' => "&gt;".toList
  | '\'' => "&#39;".toList
  | '"' => "&#34;".toList
  | c => [c]

def inserted (markup : Bool) (s : String) : String :=
  if markup then String.ofList (s.toList.flatMap escapedChar) else s

mutual

def Part.render (markup : Bool) (scope : Scope) : Part → Except Problem String
  | .text s => .ok s
  | .output e => do return inserted markup (← (← e.evaluate scope).shown)
  | .choice condition yes no => do
    if (← condition.evaluate scope).truthy then renderAll markup scope yes
    else renderAll markup scope no

def renderAll (markup : Bool) (scope : Scope) : List Part → Except Problem String
  | [] => .ok ""
  | p :: ps => do
    let s ← p.render markup scope
    return s ++ (← renderAll markup scope ps)

end

def isMarkup (name : String) : Bool :=
  let lower := name.toList.map Char.toLower
  ".html".toList.isSuffixOf lower || ".xml".toList.isSuffixOf lower

/-- Checks the keys of a context: they have to be texts, and none of them the name of the template
itself. -/
def checkKeys (context : Entries Value) : Except Problem Unit := do
  if context.keys.any fun k => !k.isSomeText then throw .badKey
  if context.keys.any (Value.isText selfName) then throw .reservedKey

def render (name : String) (ps : List Part) (context : Entries Value) :
    Except Problem String := do
  checkKeys context
  renderAll (isMarkup name) ⟨name, context, (namesOfParts ps).eraseDups⟩ ps

end Componentry.Program.Template
