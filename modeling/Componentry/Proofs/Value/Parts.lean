import Componentry.Value.Basic
import Mathlib.Data.List.Basic

/-!
# What a value is made of

Lists, tuples and maps have parts, and these may have parts of their own. The spots of a value are
all that is met on the way through it: the value itself, and then its items, or the keys and the
values of its entries, each with what is met in it. Sets and nodes are not looked into.
-/

namespace Componentry

namespace Value

/-- The items, or the values of the entries. -/
def parts : Value → List Value
  | list items => items
  | tuple items => items
  | map entries => entries.map (·.2)
  | _ => []

theorem sizeOf_lt_of_mem_parts {v w : Value} (h : w ∈ v.parts) : sizeOf w < sizeOf v := by
  cases v with
  | list items =>
    have hlt : sizeOf w < sizeOf items := List.sizeOf_lt_of_mem h
    simp only [list.sizeOf_spec]
    omega
  | tuple items =>
    have hlt : sizeOf w < sizeOf items := List.sizeOf_lt_of_mem h
    simp only [tuple.sizeOf_spec]
    omega
  | map entries =>
    obtain ⟨⟨k, v⟩, he, rfl⟩ := List.mem_map.mp h
    have hlt := List.sizeOf_lt_of_mem he
    simp only [Prod.mk.sizeOf_spec] at hlt
    simp only [map.sizeOf_spec]
    omega
  | _ => cases h

@[elab_as_elim]
theorem partsInduction {P : Value → Prop} (v : Value)
    (step : ∀ v, (∀ w ∈ v.parts, P w) → P v) : P v :=
  step v fun w hw =>
    have := sizeOf_lt_of_mem_parts hw
    partsInduction w step
termination_by sizeOf v

end Value

/-- Something that is met on the way through a value. -/
inductive Spot where
  | key (k : Value)
  | value (v : Value)

mutual

/-- A value and all that is met in it, in order: each value before its parts, and each key before
the value of its entry. -/
def Value.spots : Value → List Spot
  | .list items => .value (.list items) :: spotsOfItems items
  | .tuple items => .value (.tuple items) :: spotsOfItems items
  | .map entries => .value (.map entries) :: spotsOfEntries entries
  | v => [.value v]

def spotsOfItems : List Value → List Spot
  | [] => []
  | v :: vs => v.spots ++ spotsOfItems vs

def spotsOfEntries : List (Value × Value) → List Spot
  | [] => []
  | (k, v) :: es => .key k :: v.spots ++ spotsOfEntries es

end

theorem spotsOfItems_eq (items : List Value) : spotsOfItems items = items.flatMap Value.spots := by
  induction items with
  | nil => rfl
  | cons v items ih => rw [spotsOfItems, ih, List.flatMap_cons]

theorem spotsOfEntries_eq (es : List (Value × Value)) :
    spotsOfEntries es = es.flatMap fun e => .key e.1 :: e.2.spots := by
  induction es with
  | nil => rfl
  | cons e es ih => rw [spotsOfEntries, ih, List.flatMap_cons]

theorem Value.mem_spots_self (v : Value) : .value v ∈ v.spots := by
  cases v <;> exact List.mem_cons_self

end Componentry
