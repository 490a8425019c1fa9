import Componentry.Json.Writer
import Componentry.Proofs.Component.Plain
import Componentry.Proofs.Text.Numeral
import Componentry.Proofs.Value.Parts

/-!
# What is written completely

Writing stops at the first thing that it meets in a value and that has no written form: a key that
is no name in JSON, a value that JSON does not have and that nothing stands in for, or a whole
number of too many digits. So a value is written completely just if no such thing is met in it.
-/

namespace Componentry

namespace Json

/-- What a step stopped at. -/
def stopOf {α : Type} : Except Fault α → Option Fault
  | .ok _ => none
  | .error e => some e

end Json

open Json (Format Draft stopOf)

/-- What keeps a value from being a name. -/
def Value.nameFault? : Value → Option Fault
  | .null | .bool _ | .float _ | .str _ => none
  | .int i => if Text.IsShort i then none else some .malformed
  | _ => some .mistyped

/-- What keeps a value from being written, apart from its parts. -/
def Value.fault? (f : Format) : Value → Option Fault
  | .null | .bool _ | .float _ | .str _ | .list _ | .tuple _ | .map _ => none
  | .int i => if Text.IsShort i then none else some .malformed
  | v => stopOf (f.standIn v)

def Spot.fault? (f : Format) : Spot → Option Fault
  | .key k => k.nameFault?
  | .value v => v.fault? f

theorem Value.fault?_of_long {i : Int} (h : ¬ Text.IsShort i) (f : Format) :
    (Value.int i).fault? f = some .malformed := if_neg h

/-- Nothing keeps a value from being written. -/
def Value.IsWritable (f : Format) (v : Value) : Prop := ∀ p ∈ v.spots, p.fault? f = none

namespace Json

section

variable {f : Format} {level : Nat}

theorem stop_followedBy (d e : Draft) : (d.followedBy e).stop = d.stop.or e.stop := by
  unfold Draft.followedBy
  cases h : d.stop with
  | none => rfl
  | some e => exact h

theorem stop_done_followedBy (s : String) (d : Draft) :
    ((Draft.done s).followedBy d).stop = d.stop := stop_followedBy (.done s) d

theorem stop_followedBy_done (d : Draft) (s : String) :
    (d.followedBy (.done s)).stop = d.stop := by
  rw [stop_followedBy]
  exact Option.or_none

theorem stop_behind (before : String) (item : Value) (d : Draft) :
    (d.behind before item).stop = d.stop := by
  unfold Draft.behind
  split
  · rfl
  · exact stop_done_followedBy before d

theorem stopOf_numeral (i : Int) :
    stopOf (numeral i) = if Text.IsShort i then none else some .malformed := by
  unfold numeral
  split_ifs with h
  · rw [Text.integer_of_isShort h]
    rfl
  · rw [Text.integer_of_not_isShort h]
    rfl

theorem stopOf_nameOf (k : Value) : stopOf (nameOf k) = k.nameFault? := by
  cases k with
  | bool b => cases b <;> rfl
  | int i => exact stopOf_numeral i
  | _ => rfl

theorem stop_writeScalar (v : Value) : (writeScalar f v).stop = stopOf (scalar f v) := by
  unfold writeScalar
  cases scalar f v <;> rfl

theorem stop_quoted (r : Except Fault String) (asciiOnly : Bool) :
    stopOf (do return quotedText asciiOnly (← r)) = stopOf r := by
  cases r <;> rfl

theorem stop_writeRest {xs : List Value}
    (h : ∀ x ∈ xs, ∀ level, (writeValue f level x).stop = x.spots.findSome? (Spot.fault? f))
    (level : Nat) :
    (writeRest f level xs).stop = (spotsOfItems xs).findSome? (Spot.fault? f) := by
  induction xs with
  | nil => rfl
  | cons x xs ih =>
    obtain ⟨hfirst, hrest⟩ := List.forall_mem_cons.mp h
    rw [writeRest, stop_followedBy, stop_behind, hfirst level, ih hrest, spotsOfItems,
      List.findSome?_append]

theorem stop_writeItems {xs : List Value}
    (h : ∀ x ∈ xs, ∀ level, (writeValue f level x).stop = x.spots.findSome? (Spot.fault? f))
    (level : Nat) :
    (writeItems f level xs).stop = (spotsOfItems xs).findSome? (Spot.fault? f) := by
  cases xs with
  | nil => rfl
  | cons x xs =>
    obtain ⟨hfirst, hrest⟩ := List.forall_mem_cons.mp h
    rw [writeItems, stop_followedBy_done, stop_followedBy, stop_behind, hfirst,
      stop_writeRest hrest, spotsOfItems, List.findSome?_append]

theorem stop_writeEntries {es : List (Value × Value)}
    (h : ∀ e ∈ es, ∀ level, (writeValue f level e.2).stop = e.2.spots.findSome? (Spot.fault? f))
    (level : Nat) (before : String) :
    (writeEntries f level before es).stop = (spotsOfEntries es).findSome? (Spot.fault? f) := by
  induction es generalizing before with
  | nil => rfl
  | cons e es ih =>
    obtain ⟨hfirst, hrest⟩ := List.forall_mem_cons.mp h
    obtain ⟨k, v⟩ := e
    have hkey := stopOf_nameOf k
    rw [writeEntries, spotsOfEntries, List.cons_append, List.findSome?_cons, Spot.fault?, ← hkey]
    cases nameOf k with
    | error e => rfl
    | ok name =>
      have hvalue : (writeValue f level v).stop = _ := hfirst level
      dsimp only [stopOf]
      rw [stop_followedBy, stop_done_followedBy, hvalue, ih hrest, List.findSome?_append]

/-- Writing stops at the first thing in a value that cannot be written. -/
theorem stop_writeValue (f : Format) (level : Nat) (v : Value) :
    (writeValue f level v).stop = v.spots.findSome? (Spot.fault? f) := by
  induction v using Value.partsInduction generalizing level with
  | step v ih =>
    cases v with
    | list items => exact stop_writeItems ih level
    | tuple items => exact stop_writeItems ih level
    | map es =>
      cases es with
      | nil => rfl
      | cons e es =>
        have hentries : (writeEntries f (level + 1) "" (e :: es)).stop = _ :=
          stop_writeEntries (fun e he => ih e.2 (List.mem_map_of_mem he)) (level + 1) ""
        exact (stop_followedBy_done _ _).trans ((stop_done_followedBy _ _).trans hentries)
    | bool b => cases b <;> rfl
    | null | float x | str s => rfl
    | int i =>
      change (writeScalar f (.int i)).stop = [Spot.value (.int i)].findSome? (Spot.fault? f)
      rw [stop_writeScalar, List.findSome?_singleton]
      exact stopOf_numeral i
    | set items | bytes b | ellipsis | node n =>
      change (writeScalar f _).stop = [Spot.value _].findSome? (Spot.fault? f)
      rw [stop_writeScalar, List.findSome?_singleton]
      exact stop_quoted (f.standIn _) f.asciiOnly

end

variable {v : Value}

theorem writeLine_eq_ok_iff : (∃ s, writeLine v = .ok s) ↔ v.IsWritable .line := by
  rw [Value.IsWritable, ← List.findSome?_eq_none_iff, ← stop_writeValue .line 0, writeLine, write,
    Draft.result]
  cases (writeValue .line 0 v).stop <;> simp [Result.fault]

theorem writeLine_eq_error_iff {e : Fault} :
    writeLine v = Result.fault e ↔ v.spots.findSome? (Spot.fault? .line) = some e := by
  rw [← stop_writeValue .line 0, writeLine, write, Draft.result]
  cases (writeValue .line 0 v).stop <;> simp [Result.fault]

end Json

section

variable {voc : Script.Vocabulary} {v : Value}

/-- What is met in a plain value is plain: keys are texts, and values are plain. -/
theorem Value.IsPlain.spot (h : v.IsPlain voc) :
    ∀ p ∈ v.spots, (∃ k, p = .key (.str k)) ∨ ∃ w, p = .value w ∧ w.IsPlain voc := by
  have hself {w : Value} (hw : w.IsPlain voc) :
      (∃ k, Spot.value w = .key (.str k)) ∨ ∃ u, Spot.value w = .value u ∧ u.IsPlain voc :=
    .inr ⟨w, rfl, hw⟩
  induction h with
  | null => exact List.forall_mem_singleton.mpr (hself .null)
  | bool b => exact List.forall_mem_singleton.mpr (hself (.bool b))
  | int hi => exact List.forall_mem_singleton.mpr (hself (.int hi))
  | float hx => exact List.forall_mem_singleton.mpr (hself (.float hx))
  | str s => exact List.forall_mem_singleton.mpr (hself (.str s))
  | @list items hitems ih =>
    rw [spots, spotsOfItems_eq]
    refine List.forall_mem_cons.mpr ⟨hself (.list hitems), fun p hp => ?_⟩
    obtain ⟨w, hw, hp⟩ := List.mem_flatMap.mp hp
    exact ih w hw p hp
  | @map es hentries hvalues ih =>
    rw [spots, spotsOfEntries_eq]
    refine List.forall_mem_cons.mpr ⟨hself (.map hentries hvalues), fun p hp => ?_⟩
    obtain ⟨e, he, hp⟩ := List.mem_flatMap.mp hp
    rcases List.mem_cons.mp hp with rfl | hp
    · obtain ⟨k, hk, -⟩ := hentries.key he
      exact .inl ⟨k, by rw [hk]⟩
    · exact ih e he p hp

/-- Only numbers of too many digits keep a plain value from being written. -/
theorem Value.IsPlain.fault (h : v.IsPlain voc) {f : Format} {p : Spot} (hp : p ∈ v.spots)
    {e : Fault} (he : p.fault? f = some e) :
    e = .malformed ∧ ∃ i, p = .value (.int i) ∧ voc.number (.int i) ∧ ¬ Text.IsShort i := by
  rcases h.spot p hp with ⟨k, rfl⟩ | ⟨w, rfl, hw⟩
  · cases he
  · cases hw with
    | @int i hi =>
      have hfault : (if Text.IsShort i then none else some Fault.malformed) = some e := he
      split_ifs at hfault with hshort
      exact ⟨(Option.some.inj hfault).symm, i, rfl, hi, hshort⟩
    | _ => cases he

end

end Componentry
