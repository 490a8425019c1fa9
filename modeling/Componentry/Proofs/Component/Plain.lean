import Componentry.Proofs.Result
import Componentry.Proofs.Script.Assembled
import Mathlib.Data.List.Forall2

/-!
# Plain descriptions

A description is plain if it holds what a text of JSON can hold: the keys of its mappings are texts,
no two of them equal, and its values are null, truth values, numbers, texts, lists and mappings.
Which numbers and which names it may hold is left to a vocabulary. Plain values have literals, and
these consist of the nodes of declarations.
-/

namespace Componentry

open Script (Vocabulary Assembled)

variable {voc : Vocabulary}

/-- Entries under texts, no two of them equal. -/
def Entries.IsPlain {α : Type} (voc : Vocabulary) (es : Entries α) : Prop :=
  ∃ ks : List String, es.keys = ks.map .str ∧ ks.Nodup ∧ ∀ k ∈ ks, voc.name k

/-- A value that a text of JSON can hold. -/
inductive Value.IsPlain (voc : Vocabulary) : Value → Prop
  | null : IsPlain voc .null
  | bool (b : Bool) : IsPlain voc (.bool b)
  | int {i : Int} (hi : voc.number (.int i)) : IsPlain voc (.int i)
  | float {x : Double} (hx : voc.number (.float x)) : IsPlain voc (.float x)
  | str (s : String) : IsPlain voc (.str s)
  | list {items : List Value} (hitems : ∀ v ∈ items, IsPlain voc v) : IsPlain voc (.list items)
  | map {entries : List (Value × Value)} (hentries : Entries.IsPlain voc entries)
    (hvalues : ∀ e ∈ entries, IsPlain voc e.2) : IsPlain voc (.map entries)

theorem Value.IsPlain.mono {voc' : Vocabulary} {v : Value} (h : v.IsPlain voc)
    (hnumber : ∀ v, voc.number v → voc'.number v) (hname : ∀ k, voc.name k → voc'.name k) :
    v.IsPlain voc' := by
  induction h with
  | null => exact .null
  | bool b => exact .bool b
  | int hi => exact .int (hnumber _ hi)
  | float hx => exact .float (hnumber _ hx)
  | str s => exact .str s
  | list _ ih => exact .list ih
  | map hentries _ ih =>
    obtain ⟨ks, hkeys, hnodup, hnames⟩ := hentries
    exact .map ⟨ks, hkeys, hnodup, fun k hk => hname k (hnames k hk)⟩ ih

namespace Entries.IsPlain

variable {α : Type} {es : Entries α}

theorem key (h : es.IsPlain voc) {e : Value × α} (he : e ∈ es) :
    ∃ k, e.1 = .str k ∧ voc.name k := by
  obtain ⟨ks, hkeys, -, hnames⟩ := h
  have hmem : e.1 ∈ es.keys := List.mem_map_of_mem he
  rw [hkeys] at hmem
  obtain ⟨k, hk, heq⟩ := List.mem_map.mp hmem
  exact ⟨k, heq.symm, hnames k hk⟩

theorem cons {e : Value × α} (h : Entries.IsPlain voc (e :: es)) :
    Entries.IsPlain voc es ∧ ∃ k, e.1 = .str k ∧ voc.name k ∧ .str k ∉ es.keys := by
  obtain ⟨ks, hkeys, hnodup, hnames⟩ := h
  cases ks with
  | nil => cases hkeys
  | cons k ks =>
    obtain ⟨hk, hrest⟩ := List.cons.inj hkeys
    obtain ⟨hnot, hnodup⟩ := List.nodup_cons.mp hnodup
    obtain ⟨hname, hnames⟩ := List.forall_mem_cons.mp hnames
    have hrest : es.keys = ks.map .str := hrest
    refine ⟨⟨ks, hrest, hnodup, hnames⟩, k, hk, hname, fun hmem => hnot ?_⟩
    rw [hrest] at hmem
    obtain ⟨l, hl, heq⟩ := List.mem_map.mp hmem
    cases heq
    exact hl

end Entries.IsPlain

theorem exists_of_forall₂ {α β : Type} {R : α → β → Prop} {as : List α} {bs : List β}
    (h : List.Forall₂ R as bs) : ∀ b ∈ bs, ∃ a ∈ as, R a b := by
  induction h with
  | nil => exact fun _ hb => nomatch hb
  | @cons a b as bs hab _ ih =>
    intro c hc
    rcases List.mem_cons.mp hc with rfl | hc
    · exact ⟨a, List.mem_cons_self, hab⟩
    · obtain ⟨a', ha', h'⟩ := ih c hc
      exact ⟨a', List.mem_cons_of_mem a ha', h'⟩

theorem literalItems_ok {P : Value → Node → Prop} {items : List Value}
    (h : ∀ v ∈ items, ∃ n, v.literal = .ok n ∧ P v n) :
    ∃ ns, literalItems items = .ok ns ∧ List.Forall₂ P items ns := by
  induction items with
  | nil => exact ⟨[], rfl, .nil⟩
  | cons v items ih =>
    obtain ⟨n, hn, hp⟩ := h v List.mem_cons_self
    obtain ⟨ns, hns, hps⟩ := ih fun w hw => h w (List.mem_cons_of_mem v hw)
    exact ⟨n :: ns, by simp [literalItems, hn, hns], .cons hp hps⟩

/-- The property for an entry, whose value is related to the value of the entry. -/
def IsMemberFor (P : Value → Node → Prop) (e : Value × Value) (m : Node) : Prop :=
  ∃ k n, e.1.inserted = .ok k ∧ P e.2 n ∧ m = .objectProperty (.key k) n (.bool false)

theorem literalMembers_ok {P : Value → Node → Prop} {es : List (Value × Value)}
    (hkeys : ∀ e ∈ es, ∃ k, e.1.inserted = .ok k)
    (h : ∀ e ∈ es, ∃ n, e.2.literal = .ok n ∧ P e.2 n) :
    ∃ ms, literalMembers es = .ok ms ∧ List.Forall₂ (IsMemberFor P) es ms := by
  induction es with
  | nil => exact ⟨[], rfl, .nil⟩
  | cons e es ih =>
    obtain ⟨⟨k, hk⟩, hkeys⟩ := List.forall_mem_cons.mp hkeys
    obtain ⟨⟨n, hn, hp⟩, h⟩ := List.forall_mem_cons.mp h
    obtain ⟨ms, hms, hps⟩ := ih hkeys h
    exact ⟨_ :: ms, by simp [literalMembers, hk, hn, hms], .cons ⟨k, n, hk, hp, rfl⟩ hps⟩

theorem memberName?_key (k : String) : Script.memberName? (.key k) = some k := by
  unfold Node.key
  split_ifs <;> rfl

section

variable {P : Value → Node → Prop} {es : Entries Value} {ms : List Node}

theorem IsMemberFor.setsPrototype {e : Value × Value} {m : Node} (h : IsMemberFor P e m)
    {k : String} (hk : e.1 = .str k) : Script.setsPrototype m = (k == Script.prototypeName) := by
  obtain ⟨l, n, hl, -, rfl⟩ := h
  rw [hk, Value.inserted_str] at hl
  cases hl
  rw [Script.setsPrototype, memberName?_key]
  simp [beq_eq_decide]

theorem countP_setsPrototype_eq_zero (h : es.IsPlain voc)
    (hnot : .str Script.prototypeName ∉ es.keys) (hms : List.Forall₂ (IsMemberFor P) es ms) :
    ms.countP Script.setsPrototype = 0 := by
  induction hms with
  | nil => rfl
  | cons hm _ ih =>
    obtain ⟨hes, k, hk, -, -⟩ := h.cons
    obtain ⟨hne, hnot⟩ := List.ne_and_not_mem_of_not_mem_cons hnot
    have hne : k ≠ Script.prototypeName := fun heq => hne (heq ▸ hk.symm)
    rw [List.countP_cons, hm.setsPrototype hk, ih hes hnot, if_neg (by simpa using hne)]

/-- Of the members for distinct entries, at most one has a given name. -/
theorem countP_setsPrototype_le_one (h : es.IsPlain voc)
    (hms : List.Forall₂ (IsMemberFor P) es ms) : ms.countP Script.setsPrototype ≤ 1 := by
  induction hms with
  | nil => exact Nat.zero_le 1
  | cons hm hms ih =>
    obtain ⟨hes, k, hk, -, hnot⟩ := h.cons
    rw [List.countP_cons, hm.setsPrototype hk]
    by_cases hproto : k = Script.prototypeName
    · rw [countP_setsPrototype_eq_zero hes (hproto ▸ hnot) hms]
      split <;> omega
    · rw [if_neg (by simpa using hproto)]
      exact ih hes

end

theorem Entries.IsPlain.inserted {es : Entries Value} (h : es.IsPlain voc) :
    ∀ e ∈ es, ∃ k, e.1.inserted = .ok k := by
  intro e he
  obtain ⟨k, hk, -⟩ := h.key he
  exact ⟨k, hk ▸ Value.inserted_str k⟩

theorem literalItems_assembled {items : List Value}
    (h : ∀ v ∈ items, ∃ n, v.literal = .ok n ∧ Assembled voc .expression n) :
    ∃ ns, literalItems items = .ok ns ∧ ∀ n ∈ ns, Assembled voc .expression n := by
  obtain ⟨ns, hns, hassembled⟩ := literalItems_ok h
  refine ⟨ns, hns, fun n hn => ?_⟩
  obtain ⟨v, -, hv⟩ := exists_of_forall₂ hassembled n hn
  exact hv

theorem literalMembers_assembled {es : Entries Value} (hes : es.IsPlain voc)
    (h : ∀ e ∈ es, ∃ n, e.2.literal = .ok n ∧ Assembled voc .expression n) :
    ∃ ms, literalMembers es = .ok ms ∧ Assembled voc .expression (.objectExpression ms) := by
  obtain ⟨ms, hms, hmembers⟩ := literalMembers_ok
    (P := fun _ n => Assembled voc .expression n) hes.inserted h
  refine ⟨ms, hms, .object (fun m hm => ?_) (countP_setsPrototype_le_one hes hmembers)⟩
  obtain ⟨e, he, k, n, hk, hn, rfl⟩ := exists_of_forall₂ hmembers m hm
  obtain ⟨l, hl, hname⟩ := hes.key he
  rw [hl, Value.inserted_str] at hk
  cases hk
  exact .property hname hn

/-- A plain value has a literal, which consists of the nodes of declarations. -/
theorem Value.IsPlain.literal {v : Value} (h : v.IsPlain voc) :
    ∃ n, v.literal = .ok n ∧ Assembled voc .expression n := by
  induction h with
  | null => exact ⟨_, rfl, .null⟩
  | bool b => exact ⟨_, rfl, .bool b⟩
  | int hi => exact ⟨_, rfl, .number hi⟩
  | float hx => exact ⟨_, rfl, .number hx⟩
  | str s => exact ⟨_, rfl, .text s⟩
  | list hitems ih =>
    obtain ⟨ns, hns, hassembled⟩ := literalItems_assembled ih
    exact ⟨_, by simp [Value.literal, hns], .array hassembled⟩
  | map hentries hvalues ih =>
    obtain ⟨ms, hms, hassembled⟩ := literalMembers_assembled hentries ih
    exact ⟨_, by simp [Value.literal, hms], hassembled⟩

end Componentry
