import Componentry.Proofs.Component.Typed
import Componentry.Proofs.Value.Entries

/-!
# Values that are compared

A plain value is equal to itself unless it holds what is not a number. Of two equal values the first
is nested no deeper than the second, so no value is equal to a part of itself.
-/

namespace Componentry

open Script (Vocabulary)

variable {voc : Vocabulary}

/-- All numbers that are equal to themselves, and any names. -/
def comparable : Vocabulary where
  number v := Script.IsNumber v ∧ v ≠ .float .nan
  name _ := True
  component _ := True
  options _ _ := trivial

theorem Value.IsPlain.written {v : Value} (h : v.IsPlain comparable) : v.IsPlain written :=
  h.mono (fun _ hv => hv.1) fun _ _ => trivial

theorem Double.same_self {x : Double} (h : x ≠ .nan) : x.same x = true := by
  unfold same
  split
  · exact absurd rfl h
  · exact absurd rfl h
  · rfl
  · exact beq_self_eq_true x

theorem sameItems_self {xs : List Value} (h : ∀ x ∈ xs, x.same x = true) :
    sameItems xs xs = true := by
  induction xs with
  | nil => rfl
  | cons x xs ih =>
    obtain ⟨hx, hxs⟩ := List.forall_mem_cons.mp h
    rw [sameItems, hx, ih hxs]
    rfl

theorem sameEntries_iff {xs ys : Entries Value} : sameEntries xs ys = true ↔
    ∀ e ∈ xs, ∃ f ∈ ys, e.1.same f.1 = true ∧ e.2.same f.2 = true := by
  induction xs with
  | nil => exact ⟨fun _ _ he => (nomatch he), fun _ => rfl⟩
  | cons e xs ih =>
    obtain ⟨k, v⟩ := e
    rw [sameEntries, Bool.and_eq_true, ih, List.any_eq_true, List.forall_mem_cons]
    simp only [Bool.and_eq_true]

theorem Value.IsPlain.same_self {v : Value} (h : v.IsPlain comparable) : v.same v = true := by
  induction h with
  | null => rfl
  | bool b => cases b <;> rfl
  | @int i _ => exact beq_self_eq_true i
  | @float x hx => exact Double.same_self fun heq => hx.2 (congrArg Value.float heq)
  | str s => exact (str_same_iff s (.str s)).mpr rfl
  | list _ ih =>
    rw [Value.same]
    exact sameItems_self ih
  | @map es hentries _ ih =>
    rw [Value.same, beq_self_eq_true, Bool.true_and, sameEntries_iff]
    intro e he
    obtain ⟨k, hk, -⟩ := hentries.key he
    exact ⟨e, he, hk ▸ (str_same_iff k (.str k)).mpr rfl, ih e he⟩

mutual

/-- How deep lists and maps are nested in a value. -/
def Value.depth : Value → Nat
  | .list xs => itemsDepth xs + 1
  | .map es => entriesDepth es + 1
  | _ => 0
termination_by structural v => v

def itemsDepth : List Value → Nat
  | [] => 0
  | x :: xs => max x.depth (itemsDepth xs)
termination_by structural xs => xs

def entriesDepth : List (Value × Value) → Nat
  | [] => 0
  | (_, v) :: es => max v.depth (entriesDepth es)
termination_by structural es => es

end

theorem itemsDepth_le_iff {xs : List Value} {n : Nat} :
    itemsDepth xs ≤ n ↔ ∀ x ∈ xs, x.depth ≤ n := by
  induction xs with
  | nil => exact ⟨fun _ _ hx => (nomatch hx), fun _ => Nat.zero_le n⟩
  | cons x xs ih => rw [itemsDepth, Nat.max_le, ih, List.forall_mem_cons]

theorem entriesDepth_le_iff {es : Entries Value} {n : Nat} :
    entriesDepth es ≤ n ↔ ∀ e ∈ es, e.2.depth ≤ n := by
  induction es with
  | nil => exact ⟨fun _ _ he => (nomatch he), fun _ => Nat.zero_le n⟩
  | cons e es ih =>
    obtain ⟨k, v⟩ := e
    rw [entriesDepth, Nat.max_le, ih, List.forall_mem_cons]

theorem depth_lt_list {xs : List Value} {x : Value} (hx : x ∈ xs) :
    x.depth < (Value.list xs).depth :=
  Nat.lt_succ_of_le (itemsDepth_le_iff.mp le_rfl x hx)

theorem depth_lt_map {es : Entries Value} {e : Value × Value} (he : e ∈ es) :
    e.2.depth < (Value.map es).depth :=
  Nat.lt_succ_of_le (entriesDepth_le_iff.mp le_rfl e he)

theorem exists_same_of_sameItems {xs ys : List Value} (h : sameItems xs ys = true) :
    ∀ x ∈ xs, ∃ y ∈ ys, x.same y = true := by
  induction xs generalizing ys with
  | nil => exact fun _ hx => nomatch hx
  | cons x xs ih =>
    cases ys with
    | nil => cases h
    | cons y ys =>
      obtain ⟨hxy, hrest⟩ := Bool.and_eq_true_iff.mp h
      refine List.forall_mem_cons.mpr ⟨⟨y, List.mem_cons_self, hxy⟩, fun z hz => ?_⟩
      obtain ⟨w, hw, hzw⟩ := ih hrest z hz
      exact ⟨w, List.mem_cons_of_mem y hw, hzw⟩

/-- Of two equal values the first is nested no deeper than the second. -/
theorem Value.IsPlain.depth_le_of_same {v w : Value} (h : v.IsPlain voc) (hw : v.same w = true) :
    v.depth ≤ w.depth := by
  induction h generalizing w with
  | null | bool | int | float | str => exact Nat.zero_le _
  | @list xs _ ih =>
    cases w with
    | list ys =>
      rw [Value.same] at hw
      refine Nat.succ_le_succ (itemsDepth_le_iff.mpr fun x hx => ?_)
      obtain ⟨y, hy, hxy⟩ := exists_same_of_sameItems hw x hx
      exact (ih x hx hxy).trans (itemsDepth_le_iff.mp le_rfl y hy)
    | _ => cases hw
  | @map es _ _ ih =>
    cases w with
    | map fs =>
      rw [Value.same] at hw
      refine Nat.succ_le_succ (entriesDepth_le_iff.mpr fun e he => ?_)
      obtain ⟨f, hf, -, hef⟩ := sameEntries_iff.mp (Bool.and_eq_true_iff.mp hw).2 e he
      exact (ih e he hef).trans (entriesDepth_le_iff.mp le_rfl f hf)
    | _ => cases hw

theorem depth_le_of_items {v : Value} (h : v.IsPlain voc) {xs : List Value}
    (hxs : v.items = .ok xs) : ∀ x ∈ xs, x.depth ≤ v.depth := by
  cases h with
  | null | bool | int | float => cases hxs
  | str s =>
    cases hxs
    intro x hx
    obtain ⟨c, -, rfl⟩ := List.mem_map.mp hx
    exact Nat.zero_le _
  | list =>
    cases hxs
    exact fun x hx => (depth_lt_list hx).le
  | map hentries =>
    cases hxs
    intro x hx
    obtain ⟨e, he, rfl⟩ := List.mem_map.mp hx
    obtain ⟨k, hk, -⟩ := hentries.key he
    exact hk ▸ Nat.zero_le _

theorem items_of_pair {v : Value} {e : Value × Value} (he : v.pair = .ok e) :
    v.items = .ok [e.1, e.2] := by
  obtain ⟨items, hitems, he⟩ := Result.bind_eq_ok.mp he
  split at he
  · split_ifs at he
    · cases he
      exact hitems
    · cases he
  · cases he

/-- What a map is updated with from a plain value are parts of that value. -/
theorem depth_lt_of_updates {v : Value} (h : v.IsPlain voc) {es : Entries Value}
    (hes : v.updates = .ok es) : ∀ e ∈ es, e.2.depth < v.depth := by
  intro e he
  cases h with
  | null | bool | int | float => cases hes
  | str s =>
    obtain ⟨xs, hxs, hes⟩ := Result.bind_eq_ok.mp hes
    cases hxs
    obtain ⟨x, hx, hpair⟩ := Result.exists_of_mapM hes e he
    obtain ⟨c, -, rfl⟩ := List.mem_map.mp hx
    have hlength := congrArg List.length (Except.ok.inj (items_of_pair hpair))
    rw [List.length_map, String.toList_singleton] at hlength
    cases hlength
  | list hitems =>
    obtain ⟨xs, hxs, hes⟩ := Result.bind_eq_ok.mp hes
    cases hxs
    obtain ⟨x, hx, hpair⟩ := Result.exists_of_mapM hes e he
    have hle := depth_le_of_items (hitems x hx) (items_of_pair hpair) e.2 (by simp)
    exact hle.trans_lt (depth_lt_list hx)
  | map =>
    cases hes
    exact depth_lt_map he

end Componentry
