import Componentry.Proofs.Component.Plain
import Componentry.Proofs.Component.Running

/-!
# What literals come to

The literal of a plain value comes to the datum of the value, whatever the fields hold. That is also
so behind a change of the literal that gives other names to the members of objects, and for any rule
by which members make an object.
-/

namespace Componentry

open Script (Vocabulary)

/-- A change of nodes that keeps what a literal consists of, but for the names of members. -/
structure Renames (change : Node → Node) (named : String → String) : Prop where
  null : change .nullLiteral = .nullLiteral
  bool : ∀ b, change (.booleanLiteral b) = .booleanLiteral b
  number : ∀ v, change (.numericLiteral v) = .numericLiteral v
  text : ∀ v, change (.stringLiteral v) = .stringLiteral v
  array : ∀ ns, change (.arrayExpression ns) = .arrayExpression (ns.map change)
  object : ∀ ms, change (.objectExpression ms) = .objectExpression (ms.map change)
  member : ∀ k n, ∃ key, Script.memberName? key = some (named k) ∧
    change (.objectProperty (.key k) n (.bool false)) = .objectProperty key (change n) (.bool false)

theorem renames_id : Renames id id where
  null := rfl
  bool _ := rfl
  number _ := rfl
  text _ := rfl
  array ns := by rw [List.map_id, id]
  object ms := by rw [List.map_id, id]
  member k n := ⟨.key k, memberName?_key k, rfl⟩

section

variable {change : Node → Node} {named : String → String}
  {objectOf : List (String × Datum) → Datum} {voc : Vocabulary}

theorem dataOfItems_eq_map (items : List Value) :
    dataOfItems named objectOf items = items.map (Value.datum named objectOf) := by
  induction items with
  | nil => rfl
  | cons v items ih => rw [dataOfItems, ih, List.map_cons]

theorem mem_dataOfEntries {es : Entries Value} {k : String} {d : Datum} :
    (k, d) ∈ dataOfEntries named objectOf es ↔
      ∃ l v, (.str l, v) ∈ es ∧ named l = k ∧ v.datum named objectOf = d := by
  induction es with
  | nil => simp [dataOfEntries]
  | cons e es ih =>
    obtain ⟨key, w⟩ := e
    cases key with
    | str l =>
      rw [dataOfEntries, List.mem_cons, ih]
      constructor
      · rintro (heq | ⟨l', v, he, hk, hd⟩)
        · cases heq
          exact ⟨l, w, List.mem_cons_self, rfl, rfl⟩
        · exact ⟨l', v, List.mem_cons_of_mem _ he, hk, hd⟩
      · rintro ⟨l', v, he, rfl, rfl⟩
        rcases List.mem_cons.mp he with heq | he
        · cases heq
          exact .inl rfl
        · exact .inr ⟨l', v, he, rfl, rfl⟩
    | _ => simpa [dataOfEntries] using ih

theorem names_dataOfEntries {es : Entries Value} {ks : List String} (h : es.keys = ks.map .str) :
    (dataOfEntries named objectOf es).map Prod.fst = ks.map named := by
  induction es generalizing ks with
  | nil =>
    obtain rfl : ks = [] := List.map_eq_nil_iff.mp h.symm
    rfl
  | cons e es ih =>
    obtain ⟨key, v⟩ := e
    cases ks with
    | nil => cases h
    | cons k ks =>
      obtain ⟨rfl, hrest⟩ := List.cons.inj h
      rw [dataOfEntries, List.map_cons, ih hrest, List.map_cons]

/-- An expression that comes to the datum of a value once it is changed, whatever the fields
hold. -/
def ComesTo (change : Node → Node) (named : String → String)
    (objectOf : List (String × Datum) → Datum) (v : Value) (n : Node) : Prop :=
  ∀ fields, Script.evaluate objectOf fields (change n) = some (v.datum named objectOf)

theorem evaluateAll_of_forall₂ {items : List Value} {ns : List Node}
    (h : List.Forall₂ (ComesTo change named objectOf) items ns) (fields : String → Datum) :
    Script.evaluateAll objectOf fields (ns.map change) =
      some (dataOfItems named objectOf items) := by
  induction h with
  | nil => rfl
  | cons hn _ ih => simp [Script.evaluateAll, hn fields, ih, dataOfItems]

theorem evaluateMembers_of_forall₂ (hchange : Renames change named) {es : Entries Value}
    (hes : es.IsPlain voc) {ms : List Node}
    (h : List.Forall₂ (IsMemberFor (ComesTo change named objectOf)) es ms)
    (fields : String → Datum) :
    Script.evaluateMembers objectOf fields (ms.map change) =
      some (dataOfEntries named objectOf es) := by
  induction h with
  | nil => rfl
  | @cons e m es ms hm _ ih =>
    obtain ⟨hrest, k, hk, -, -⟩ := hes.cons
    obtain ⟨key, v⟩ := e
    cases hk
    obtain ⟨l, n, hl, hn, rfl⟩ := hm
    cases hl
    obtain ⟨written, hname, hmember⟩ := hchange.member k n
    simp [Script.evaluateMembers, hmember, hname, hn fields, ih hrest, dataOfEntries]

/-- A plain value has a literal, which comes to the datum of the value. -/
theorem Value.IsPlain.comesTo {v : Value} (h : v.IsPlain voc) (hchange : Renames change named) :
    ∃ n, v.literal = .ok n ∧ ComesTo change named objectOf v n := by
  induction h with
  | null =>
    refine ⟨_, rfl, fun fields => ?_⟩
    rw [hchange.null]
    rfl
  | bool b =>
    refine ⟨_, rfl, fun fields => ?_⟩
    rw [hchange.bool]
    rfl
  | int | float =>
    refine ⟨_, rfl, fun fields => ?_⟩
    rw [hchange.number]
    rfl
  | str s =>
    refine ⟨_, rfl, fun fields => ?_⟩
    rw [hchange.text]
    rfl
  | list hitems ih =>
    obtain ⟨ns, hns, hdata⟩ := literalItems_ok ih
    refine ⟨.arrayExpression ns, by simp [Value.literal, hns], fun fields => ?_⟩
    rw [hchange.array, Script.evaluate, evaluateAll_of_forall₂ hdata]
    rfl
  | map hentries hvalues ih =>
    obtain ⟨ms, hms, hdata⟩ := literalMembers_ok hentries.inserted ih
    refine ⟨.objectExpression ms, by simp [Value.literal, hms], fun fields => ?_⟩
    rw [hchange.object, Script.evaluate, evaluateMembers_of_forall₂ hchange hentries hdata]
    rfl

end

end Componentry
