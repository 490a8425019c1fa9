import Componentry.Failure
import Componentry.Value.Compare

/-!
# Maps and the members of values

A map is a list of entries in the order in which their keys were first given. Looking a key up,
putting one in and reading a value as a map or as a collection are defined here, together with the
faults of values that are neither.
-/

namespace Componentry

abbrev Entries (α : Type) := List (Value × α)

namespace Entries

variable {α : Type}

def find? (key : Value) : Entries α → Option α
  | [] => none
  | (k, v) :: es => if k.same key then some v else find? key es

def get? (es : Entries α) (key : String) : Option α := es.find? (.str key)

/-- The entries with a value put under a key: in the place of the old one, or else at the end. -/
def put (es : Entries α) (key : Value) (value : α) : Entries α :=
  match es with
  | [] => [(key, value)]
  | (k, v) :: rest => if k.same key then (k, value) :: rest else (k, v) :: put rest key value

def update (es : Entries α) (others : Entries α) : Entries α :=
  others.foldl (fun acc e => acc.put e.1 e.2) es

/-- The entries of a list of pairs, a later one replacing the value of an earlier equal key. -/
def ofPairs (pairs : List (Value × α)) : Entries α := update [] pairs

def keys (es : Entries α) : List Value := es.map (·.1)

def Distinct (es : Entries α) : Prop := es.Pairwise fun a b => a.1.same b.1 = false

end Entries

namespace Value

def entries : Value → Result (Entries Value)
  | map es => .ok es
  | _ => Result.fault .memberless

def member (v : Value) (key : String) : Result Value := do
  let es ← v.entries
  return (es.get? key).getD null

def orEmpty (v : Value) : Value := if v.truthy then v else map []

/-- The items that a value is a collection of. A text consists of its characters, a run of bytes of
numbers, and a map of its keys. -/
def items : Value → Result (List Value)
  | str s => .ok (s.toList.map fun c => str (String.singleton c))
  | bytes b => .ok (b.map fun x => int x.toNat)
  | list xs => .ok xs
  | tuple xs => .ok xs
  | set xs => .ok xs
  | map es => .ok (es.map (·.1))
  | _ => Result.fault .mistyped

def itemsOrNone (v : Value) : Result (List Value) :=
  if v.truthy then v.items else .ok []

def text : Value → Result String
  | str s => .ok s
  | _ => Result.fault .mistyped

def pair (v : Value) : Result (Value × Value) := do
  match ← v.items with
  | [k, x] => if k.canBeKey then return (k, x) else Result.fault .mistyped
  | _ => Result.fault .malformed

/-- The entries that a map is updated with: those of a map, or the pairs that a collection
consists of. -/
def updates : Value → Result (Entries Value)
  | map es => .ok es
  | v => do (← v.items).mapM pair

end Value

end Componentry
