import Componentry.Proofs.Component.Reported
import Componentry.Proofs.Script.Lexing
import Componentry.Proofs.Value.Entries

/-!
# Where statements stand

The text of a place ends with the index in brackets. The digits of the index are no brackets, so the
index and the event can be told from the text of their place, whatever the name of the event holds.
No two statements of a component have the same place.
-/

namespace Componentry

/-- A statement stands at an index of an event. -/
def Handlers.Holds (handlers : Handlers) (event : String) (index : Nat) (s : Statement) : Prop :=
  ∃ statements, handlers.get? event = some statements ∧ statements[index]? = some s

namespace Handlers

/-- The index in the text of a place: the digits in front of the last character. -/
def indexOf (place : String) : Nat :=
  Nat.ofDigitChars 10 ((place.toList.reverse.tail.takeWhile Char.isDigit).reverse) 0

theorem toList_place (event : String) (index : Nat) :
    (place event index).toList = event.toList ++ '[' :: (Text.digits index ++ [']']) := by
  simp [place, Text.natural]

theorem indexOf_place (event : String) (index : Nat) : indexOf (place event index) = index := by
  have hdigits : ∀ c ∈ (Text.digits index).reverse, c.isDigit = true := fun c hc =>
    Script.isDigit_of_mem_digits (List.mem_reverse.mp hc)
  have htail : (place event index).toList.reverse.tail =
      (Text.digits index).reverse ++ '[' :: event.toList.reverse := by
    rw [toList_place]
    simp
  rw [indexOf, htail, List.takeWhile_append_of_pos hdigits, List.takeWhile_cons_of_neg (by decide),
    List.append_nil, List.reverse_reverse, Text.digits, Nat.ofDigitChars_ten_toDigits]

theorem place_injective {event event' : String} {index index' : Nat}
    (h : place event index = place event' index') :
    event = event' ∧ index = index' := by
  have hindex : index = index' := by
    rw [← indexOf_place event index, h, indexOf_place]
  subst hindex
  have hchars := congrArg String.toList h
  rw [toList_place, toList_place] at hchars
  exact ⟨String.toList_inj.mp (List.append_cancel_right hchars), rfl⟩

section

variable {event : String} {index : Nat} {statements : List Statement}

theorem mem_placedFrom_iff {x : Placed} :
    x ∈ placedFrom (.str event) index statements ↔
      ∃ i, statements[i]? = some x.2 ∧ x.1 = .ok (place event (index + i)) := by
  induction statements generalizing index with
  | nil => exact ⟨nofun, fun ⟨_, h, _⟩ => nomatch h⟩
  | cons s rest ih =>
    rw [placedFrom, List.mem_cons, ih]
    constructor
    · rintro (rfl | ⟨i, hi, hplace⟩)
      · exact ⟨0, rfl, rfl⟩
      · exact ⟨i + 1, hi, by rw [hplace, Nat.add_right_comm, Nat.add_assoc]⟩
    · rintro ⟨i, hi, hplace⟩
      cases i with
      | zero => exact .inl (Prod.ext hplace (Option.some.inj hi).symm)
      | succ i => exact .inr ⟨i, hi, by rw [hplace, Nat.add_right_comm, Nat.add_assoc]⟩

theorem nodup_placedFrom (event : String) (index : Nat) (statements : List Statement) :
    ((placedFrom (.str event) index statements).map (·.1)).Nodup := by
  induction statements generalizing index with
  | nil => exact List.nodup_nil
  | cons s rest ih =>
    refine List.nodup_cons.mpr ⟨fun hmem => ?_, ih (index + 1)⟩
    obtain ⟨x, hx, hplace⟩ := List.mem_map.mp hmem
    obtain ⟨i, -, hx⟩ := mem_placedFrom_iff.mp hx
    have := (place_injective (Except.ok.inj (hx.symm.trans hplace))).2
    omega

end

variable {voc : Script.Vocabulary} {handlers : Handlers}

theorem placed_eq_flatMap (handlers : Handlers) :
    handlers.placed = handlers.flatMap fun e => placedFrom e.1 0 e.2 := by
  induction handlers with
  | nil => rfl
  | cons e rest ih => rw [placed, List.flatMap_cons, ih]

theorem mem_placed_iff (h : Entries.IsPlain voc handlers) {x : Placed} :
    x ∈ handlers.placed ↔
      ∃ event index, handlers.Holds event index x.2 ∧ x.1 = .ok (place event index) := by
  rw [placed_eq_flatMap, List.mem_flatMap]
  constructor
  · rintro ⟨⟨event, statements⟩, he, hx⟩
    obtain ⟨k, rfl, -⟩ := h.key he
    obtain ⟨i, hi, hplace⟩ := mem_placedFrom_iff.mp hx
    exact ⟨k, i, ⟨statements, Entries.get?_of_mem h he, hi⟩, by rw [hplace, Nat.zero_add]⟩
  · rintro ⟨event, index, ⟨statements, he, hi⟩, hplace⟩
    exact ⟨_, Entries.mem_of_get? he,
      mem_placedFrom_iff.mpr ⟨index, hi, by rw [hplace, Nat.zero_add]⟩⟩

/-- No two statements have the same place. -/
theorem nodup_placed (h : Entries.IsPlain voc handlers) : (handlers.placed.map (·.1)).Nodup := by
  induction handlers with
  | nil => exact List.nodup_nil
  | cons e rest ih =>
    obtain ⟨event, statements⟩ := e
    obtain ⟨hrest, k, rfl, -, hfresh⟩ := h.cons
    rw [placed, List.map_append, List.nodup_append]
    refine ⟨nodup_placedFrom k 0 statements, ih hrest, fun place hfirst place' hothers heq => ?_⟩
    obtain ⟨x, hx, rfl⟩ := List.mem_map.mp hfirst
    obtain ⟨y, hy, rfl⟩ := List.mem_map.mp hothers
    obtain ⟨i, -, hx⟩ := mem_placedFrom_iff.mp hx
    obtain ⟨event, j, ⟨statements', he, -⟩, hy⟩ := (mem_placed_iff hrest).mp hy
    obtain ⟨rfl, -⟩ := place_injective (Except.ok.inj (hx.symm.trans (heq.trans hy)))
    exact hfresh (List.mem_map_of_mem (Entries.mem_of_get? he))

end Handlers

end Componentry
