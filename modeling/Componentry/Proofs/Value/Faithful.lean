import Componentry.Proofs.Component.Listed
import Componentry.Proofs.Value.Parts

/-!
# Literals are faithful

A value has a literal unless a value of a kind that has none is met in it, or a key without a text,
and then the failure is about the first of them. The literal is read back as the value, with lists
in the place of tuples and the keys of maps as texts, once it is told where in it nodes stand for
themselves.
-/

namespace Componentry

/-- Values of these kinds have no literal. -/
def Value.isOther : Value → Bool
  | set _ => true
  | bytes _ => true
  | ellipsis => true
  | _ => false

namespace Spot

/-- Nothing that has a literal holds this: a key without a text, or a value of another kind. -/
def isUnfit : Spot → Bool
  | key k => k.shown.isNone
  | value v => v.isOther

/-- The failure to make a literal of this. It shows a value of another kind, and fails otherwise if
there is no text for it. -/
def failure : Spot → Failure
  | key _ => .fault .malformed
  | value v =>
    match v.display with
    | some displayed => .generation (.noLiteral v displayed)
    | none => .fault .malformed

end Spot

namespace Value

/-- What stands at a place, given by the index of a part, then of a part of it, and so on. -/
def part? (v : Value) : List Nat → Option Value
  | [] => some v
  | i :: p => v.parts[i]?.bind (part? · p)

/-- Whether a node stands at a place. -/
def holdsNode (v : Value) (p : List Nat) : Bool :=
  match v.part? p with
  | some (node _) => true
  | _ => false

end Value

mutual

/-- A value with lists in the place of tuples and texts in the place of keys, if each key has a
text. -/
def Value.settled : Value → Option Value
  | .list items => do return .list (← settledItems items)
  | .tuple items => do return .list (← settledItems items)
  | .map entries => do return .map (← settledEntries entries)
  | v => some v

def settledItems : List Value → Option (List Value)
  | [] => some []
  | v :: vs => do return (← v.settled) :: (← settledItems vs)

def settledEntries : List (Value × Value) → Option (List (Value × Value))
  | [] => some []
  | (k, v) :: es => do return (.str (← k.shown), ← v.settled) :: (← settledEntries es)

end

mutual

/-- The value that a node is the literal of. It is told at which places nodes stand for
themselves. -/
def Node.readBack (stands : List Nat → Bool) (n : Node) : Option Value :=
  if stands [] then some (.node n) else
  match n with
  | .nullLiteral => some .null
  | .booleanLiteral (.bool b) => some (.bool b)
  | .numericLiteral (.int i) => some (.int i)
  | .numericLiteral (.float x) => some (.float x)
  | .stringLiteral (.str s) => some (.str s)
  | .arrayExpression elements => do return .list (← readBackItems stands 0 elements)
  | .objectExpression properties => do return .map (← readBackEntries stands 0 properties)
  | _ => none

def readBackItems (stands : List Nat → Bool) (i : Nat) : List Node → Option (List Value)
  | [] => some []
  | n :: ns => do
    let v ← n.readBack fun p => stands (i :: p)
    return v :: (← readBackItems stands (i + 1) ns)

def readBackEntries (stands : List Nat → Bool) (i : Nat) :
    List Node → Option (List (Value × Value))
  | [] => some []
  | .objectProperty key n (.bool false) :: ms => do
    let k ← key.held?
    let v ← n.readBack fun p => stands (i :: p)
    return (k, v) :: (← readBackEntries stands (i + 1) ms)
  | _ :: _ => none

end

namespace Node

/-- The elements or the values of the members that correspond to the parts of a value. -/
def parts : Node → List Node
  | arrayExpression elements => elements
  | objectExpression properties => properties.map fun
    | objectProperty _ value _ => value
    | m => m
  | _ => []

def part? (n : Node) : List Nat → Option Node
  | [] => some n
  | i :: p => n.parts[i]?.bind (part? · p)

end Node

/-- A result that fails for what is given, and does not fail if nothing is. -/
inductive FailsOn {α : Type} : Option Spot → Result α → Prop
  | none (a : α) : FailsOn none (.ok a)
  | some (p : Spot) : FailsOn (some p) (.error p.failure)

namespace FailsOn

variable {α β : Type} {first second : Option Spot} {r : Result α}

/-- Of two steps, the second one matters only if the first does not fail. -/
theorem bind (h : FailsOn first r) {k : α → Result β} (hk : ∀ a, FailsOn second (k a)) :
    FailsOn (first.or second) (r >>= k) := by
  cases h with
  | none a => exact hk a
  | some p => exact .some p

theorem map (h : FailsOn first r) (g : α → β) : FailsOn first (do return g (← r)) := by
  cases h with
  | none a => exact .none (g a)
  | some p => exact .some p

theorem error_iff (h : FailsOn first r) {f : Failure} :
    r = .error f ↔ ∃ p, first = Option.some p ∧ f = p.failure := by
  cases h with
  | none a => exact ⟨nofun, nofun⟩
  | some p =>
    constructor
    · intro h
      exact ⟨p, rfl, (Except.error.inj h).symm⟩
    · rintro ⟨q, hq, rfl⟩
      cases hq
      rfl

end FailsOn

theorem failsOn_inserted (k : Value) : FailsOn ([Spot.key k].find? Spot.isUnfit) k.inserted := by
  rw [Value.inserted, List.find?_singleton, Spot.isUnfit]
  cases k.shown with
  | none => exact .some (.key k)
  | some s => exact .none s

theorem failsOn_literalItems {items : List Value}
    (h : ∀ v ∈ items, FailsOn (v.spots.find? Spot.isUnfit) v.literal) :
    FailsOn ((spotsOfItems items).find? Spot.isUnfit) (literalItems items) := by
  induction items with
  | nil => exact .none []
  | cons v items ih =>
    obtain ⟨hv, hitems⟩ := List.forall_mem_cons.mp h
    rw [spotsOfItems, List.find?_append]
    exact hv.bind fun n => (ih hitems).map (n :: ·)

theorem failsOn_literalMembers {es : Entries Value}
    (h : ∀ v ∈ es.map (·.2), FailsOn (v.spots.find? Spot.isUnfit) v.literal) :
    FailsOn ((spotsOfEntries es).find? Spot.isUnfit) (literalMembers es) := by
  induction es with
  | nil => exact .none []
  | cons e es ih =>
    obtain ⟨hv, hes⟩ := List.forall_mem_cons.mp h
    rw [spotsOfEntries, ← List.singleton_append, List.append_assoc, List.find?_append,
      List.find?_append]
    exact (failsOn_inserted e.1).bind fun name => hv.bind fun n => (ih hes).map _

theorem failsOn_other (v : Value) : FailsOn (some (.value v)) (do
    let displayed ← Result.ofText v.display
    .error (.generation (.noLiteral v displayed)) : Result Node) := by
  have hfailure : (do
      let displayed ← Result.ofText v.display
      .error (.generation (.noLiteral v displayed)) : Result Node) =
        .error (Spot.value v).failure := by
    rw [Spot.failure]
    cases v.display <;> rfl
  exact hfailure ▸ .some _

theorem Value.failsOn_literal (v : Value) :
    FailsOn (v.spots.find? Spot.isUnfit) v.literal := by
  induction v using partsInduction with
  | step v ih =>
    cases v with
    | list items =>
      rw [literal]
      exact (failsOn_literalItems ih).map Node.arrayExpression
    | tuple items =>
      rw [literal]
      exact (failsOn_literalItems ih).map Node.arrayExpression
    | map entries =>
      rw [literal]
      exact (failsOn_literalMembers ih).map Node.objectExpression
    | set items => exact failsOn_other _
    | bytes b => exact failsOn_other _
    | ellipsis => exact failsOn_other _
    | _ => exact .none _

section

variable {v : Value} {n : Node}

theorem Value.holdsNode_cons (v : Value) (i : Nat) (p : List Nat) :
    v.holdsNode (i :: p) = v.parts[i]?.any (holdsNode · p) := by
  rw [holdsNode, part?]
  cases v.parts[i]? <;> rfl

/-- A node is read back as a value, with texts for its keys. -/
def Node.IsReadAs (n : Node) (v : Value) : Prop :=
  ∃ w, v.settled = some w ∧ n.readBack v.holdsNode = some w

theorem Value.shown_of_inserted {k : Value} {s : String} (h : k.inserted = .ok s) :
    k.shown = some s := by
  rw [inserted] at h
  cases hk : k.shown with
  | none =>
    rw [hk] at h
    cases h
  | some t =>
    rw [hk] at h
    exact congrArg some (Except.ok.inj h)

theorem readBackItems_literal {stands : List Nat → Bool} {items : List Value} {ns : List Node}
    {i : Nat} (hns : literalItems items = .ok ns)
    (hstands : ∀ j p, stands ((i + j) :: p) = items[j]?.any (Value.holdsNode · p))
    (h : ∀ v ∈ items, ∀ n, v.literal = .ok n → n.IsReadAs v) :
    ∃ ws, settledItems items = some ws ∧ readBackItems stands i ns = some ws := by
  induction items generalizing ns i with
  | nil =>
    cases hns
    exact ⟨[], rfl, rfl⟩
  | cons v items ih =>
    obtain ⟨hv, hitems⟩ := List.forall_mem_cons.mp h
    obtain ⟨n, hn, hns⟩ := Result.bind_eq_ok.mp hns
    obtain ⟨rest, hrest, hns⟩ := Result.bind_eq_ok.mp hns
    cases hns
    have hfirst : (fun p => stands (i :: p)) = v.holdsNode := funext fun p => hstands 0 p
    have hothers := ih (i := i + 1) hrest (fun j p => by
      rw [Nat.add_assoc, Nat.add_comm 1 j]
      exact hstands (j + 1) p) hitems
    obtain ⟨w, hw, hread⟩ := hv n hn
    obtain ⟨ws, hws, hreads⟩ := hothers
    refine ⟨w :: ws, ?_, ?_⟩
    · rw [settledItems, hw, hws]
      rfl
    · rw [readBackItems, hfirst, hread, hreads]
      rfl

theorem readBackEntries_literal {stands : List Nat → Bool} {es : Entries Value} {ms : List Node}
    {i : Nat} (hms : literalMembers es = .ok ms)
    (hstands : ∀ j p, stands ((i + j) :: p) = (es.map (·.2))[j]?.any (Value.holdsNode · p))
    (h : ∀ v ∈ es.map (·.2), ∀ n, v.literal = .ok n → n.IsReadAs v) :
    ∃ fs, settledEntries es = some fs ∧ readBackEntries stands i ms = some fs := by
  induction es generalizing ms i with
  | nil =>
    cases hms
    exact ⟨[], rfl, rfl⟩
  | cons e es ih =>
    obtain ⟨hv, hes⟩ := List.forall_mem_cons.mp h
    obtain ⟨name, hname, hms⟩ := Result.bind_eq_ok.mp hms
    obtain ⟨n, hn, hms⟩ := Result.bind_eq_ok.mp hms
    obtain ⟨rest, hrest, hms⟩ := Result.bind_eq_ok.mp hms
    cases hms
    have hfirst : (fun p => stands (i :: p)) = e.2.holdsNode := funext fun p => hstands 0 p
    have hothers := ih (i := i + 1) hrest (fun j p => by
      rw [Nat.add_assoc, Nat.add_comm 1 j]
      exact hstands (j + 1) p) hes
    have hkey : (Node.key name).held? = some (.str name) := by
      unfold Node.key
      split_ifs <;> rfl
    obtain ⟨w, hw, hread⟩ := hv n hn
    obtain ⟨fs, hfs, hreads⟩ := hothers
    refine ⟨(.str name, w) :: fs, ?_, ?_⟩
    · rw [settledEntries, Value.shown_of_inserted hname, hw, hfs]
      rfl
    · rw [readBackEntries, hkey, hfirst, hread, hreads]
      rfl

theorem Node.readBack_of_stands {stands : List Nat → Bool} (h : stands [] = true) (n : Node) :
    n.readBack stands = some (.node n) := by
  unfold Node.readBack
  exact if_pos h

theorem Value.readBack_literal (h : v.literal = .ok n) : n.IsReadAs v := by
  have hstands (v : Value) (j : Nat) (p : List Nat) :
      v.holdsNode ((0 + j) :: p) = v.parts[j]?.any (holdsNode · p) := by
    rw [Nat.zero_add, holdsNode_cons]
  induction v using partsInduction generalizing n with
  | step v ih =>
    have hparts : ∀ w ∈ v.parts, ∀ m, w.literal = .ok m → m.IsReadAs w :=
      fun w hw m hm => ih w hw hm
    cases v with
    | list items =>
      obtain ⟨ns, hns, h⟩ := Result.bind_eq_ok.mp h
      cases h
      obtain ⟨ws, hws, hread⟩ := readBackItems_literal hns (hstands (.list items)) hparts
      refine ⟨.list ws, by rw [settled, hws]; rfl, ?_⟩
      rw [Node.readBack, if_neg (by exact Bool.false_ne_true), hread]
      rfl
    | tuple items =>
      obtain ⟨ns, hns, h⟩ := Result.bind_eq_ok.mp h
      cases h
      obtain ⟨ws, hws, hread⟩ := readBackItems_literal hns (hstands (.tuple items)) hparts
      refine ⟨.list ws, by rw [settled, hws]; rfl, ?_⟩
      rw [Node.readBack, if_neg (by exact Bool.false_ne_true), hread]
      rfl
    | map entries =>
      obtain ⟨ms, hms, h⟩ := Result.bind_eq_ok.mp h
      cases h
      obtain ⟨fs, hfs, hread⟩ := readBackEntries_literal hms (hstands (.map entries)) hparts
      refine ⟨.map fs, by rw [settled, hfs]; rfl, ?_⟩
      rw [Node.readBack, if_neg (by exact Bool.false_ne_true), hread]
      rfl
    | node m =>
      cases h
      exact ⟨_, rfl, Node.readBack_of_stands rfl n⟩
    | set items | bytes b | ellipsis =>
      obtain ⟨_, -, h⟩ := Result.bind_eq_ok.mp h
      cases h
    | _ =>
      cases h
      exact ⟨_, rfl, rfl⟩

theorem forall₂_literalItems {items : List Value} {ns : List Node}
    (h : literalItems items = .ok ns) : List.Forall₂ (fun w m => w.literal = .ok m) items ns := by
  induction items generalizing ns with
  | nil =>
    cases h
    exact .nil
  | cons v items ih =>
    obtain ⟨n, hn, h⟩ := Result.bind_eq_ok.mp h
    obtain ⟨rest, hrest, h⟩ := Result.bind_eq_ok.mp h
    cases h
    exact .cons hn (ih hrest)

/-- The literal of a value has the literals of its parts for parts. -/
theorem forall₂_parts (h : v.literal = .ok n) (hparts : v.parts ≠ []) :
    List.Forall₂ (fun w m => w.literal = .ok m) v.parts n.parts := by
  cases v with
  | list items =>
    obtain ⟨ns, hns, h⟩ := Result.bind_eq_ok.mp h
    cases h
    exact forall₂_literalItems hns
  | tuple items =>
    obtain ⟨ns, hns, h⟩ := Result.bind_eq_ok.mp h
    cases h
    exact forall₂_literalItems hns
  | map entries =>
    obtain ⟨ms, hms, h⟩ := Result.bind_eq_ok.mp h
    cases h
    refine List.forall₂_map_left_iff.mpr (List.forall₂_map_right_iff.mpr
      ((forall₂_literalMembers hms).imp ?_))
    rintro e m ⟨k, n, hk, hn, rfl⟩
    exact hn
  | _ => exact absurd rfl hparts

theorem Value.part?_literal {p : List Nat} {w : Value} (h : v.literal = .ok n)
    (hw : v.part? p = some w) : ∃ m, n.part? p = some m ∧ w.literal = .ok m := by
  induction p generalizing v n with
  | nil =>
    cases hw
    exact ⟨n, rfl, h⟩
  | cons i p ih =>
    obtain ⟨x, hx, hw⟩ := Option.bind_eq_some_iff.mp hw
    obtain ⟨hi, rfl⟩ := List.getElem?_eq_some_iff.mp hx
    have hforall := forall₂_parts h (List.ne_nil_of_mem (List.getElem_mem hi))
    have hlength : i < n.parts.length := hforall.length_eq ▸ hi
    obtain ⟨m, hm, hliteral⟩ := ih (hforall.get hi hlength) hw
    exact ⟨m, Option.bind_eq_some_iff.mpr ⟨_, List.getElem?_eq_getElem hlength, hm⟩, hliteral⟩

theorem lists_of_literal {es : Entries Value} (h : (Value.map es).literal = .ok n)
    (hes : es.IsPlain written) :
    ∃ ms, n = .objectExpression ms ∧ Lists IsValueMember es ms := by
  obtain ⟨ms, hms, h⟩ := Result.bind_eq_ok.mp h
  cases h
  have hforall := forall₂_literalMembers hms
  refine ⟨ms, rfl, hes.lists (List.forall₂_iff_get.mpr ⟨hforall.length_eq, fun i hi hj => ?_⟩)⟩
  obtain ⟨k, hk, -⟩ := hes.key (List.getElem_mem hi)
  exact ⟨(hforall.get hi hj).isKeyed hk, hforall.get hi hj⟩

end

/-- A number of too many digits is no key, and a set that holds it is refused without being
shown. -/
theorem Value.literal_tooLong :
    (Value.map [(.int Text.tooLong, .null)]).literal = Result.fault .malformed ∧
    (Value.set [.int Text.tooLong]).literal = Result.fault .malformed := by
  have hnone : Text.integer Text.tooLong = none :=
    Text.integer_of_not_isShort Text.not_isShort_tooLong
  constructor
  · simp [literal, literalMembers, inserted, shown, display, hnone, Result.ofText, Result.fault]
  · simp [literal, display, displayItems, hnone, Result.ofText, Result.fault]

end Componentry
