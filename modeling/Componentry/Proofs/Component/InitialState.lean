import Componentry.Program.Machine
import Componentry.Proofs.Component.Evaluated
import Componentry.Proofs.Script.Roomy

/-!
# The initial state that a component returns

The object for the initial state is read back and evaluated by the rules for objects of the script:
a later member of the same name overwrites an earlier one, and a member under the name of the
prototype is no property. What it comes to holds the state exactly when no key of a mapping at any
depth is that name or a bare name with a line feed behind it. The line feed of such a name is lost.
-/

namespace Componentry

open Script (Vocabulary Assembled settledName reread)

def setProperty (ps : List (String × Datum)) (p : String × Datum) : List (String × Datum) :=
  if p.1 ∈ ps.map Prod.fst then ps.map fun q => if q.1 = p.1 then p else q else ps ++ [p]

/-- The own properties of the object that members under their names make. -/
def ownProperties (ms : List (String × Datum)) : List (String × Datum) :=
  (ms.filter (·.1 ≠ Script.prototypeName)).foldl setProperty []

theorem names_setProperty (ps : List (String × Datum)) (p : String × Datum) :
    (setProperty ps p).map Prod.fst =
      if p.1 ∈ ps.map Prod.fst then ps.map Prod.fst else ps.map Prod.fst ++ [p.1] := by
  unfold setProperty
  split_ifs with h
  · rw [List.map_map]
    refine List.map_congr_left fun q _ => ?_
    rw [Function.comp_apply]
    split_ifs with hq
    · exact hq.symm
    · rfl
  · rw [List.map_append, List.map_singleton]

theorem foldl_setProperty_names (ms ps : List (String × Datum)) :
    ∀ k ∈ (ms.foldl setProperty ps).map Prod.fst, k ∈ ps.map Prod.fst ∨ k ∈ ms.map Prod.fst := by
  induction ms generalizing ps with
  | nil => exact fun k hk => Or.inl hk
  | cons m ms ih =>
    intro k hk
    rcases ih _ k hk with hk | hk
    · rw [names_setProperty] at hk
      split_ifs at hk
      · exact Or.inl hk
      · rcases List.mem_append.mp hk with hk | hk
        · exact Or.inl hk
        · exact Or.inr (List.mem_cons.mpr (Or.inl (List.mem_singleton.mp hk)))
    · exact Or.inr (List.mem_cons_of_mem _ hk)

theorem name_of_ownProperties {ms : List (String × Datum)} {k : String}
    (h : k ∈ (ownProperties ms).map Prod.fst) :
    k ∈ ms.map Prod.fst ∧ k ≠ Script.prototypeName := by
  rcases foldl_setProperty_names _ _ k h with hk | hk
  · cases hk
  · obtain ⟨p, hp, rfl⟩ := List.mem_map.mp hk
    obtain ⟨hmem, hne⟩ := List.mem_filter.mp hp
    exact ⟨List.mem_map_of_mem hmem, by simpa using hne⟩

theorem foldl_setProperty_of_nodup {ms ps : List (String × Datum)}
    (h : ((ps ++ ms).map Prod.fst).Nodup) : ms.foldl setProperty ps = ps ++ ms := by
  induction ms generalizing ps with
  | nil => rw [List.foldl_nil, List.append_nil]
  | cons m ms ih =>
    have hnew : m.1 ∉ ps.map Prod.fst := by
      rw [List.map_append, List.map_cons] at h
      exact fun hm => (List.nodup_append.mp h).2.2 _ hm _ List.mem_cons_self rfl
    have hset : setProperty ps m = ps ++ [m] := if_neg hnew
    rw [List.foldl_cons, hset, ih (by simpa using h), List.append_assoc, List.singleton_append]

theorem ownProperties_of_nodup {ms : List (String × Datum)} (h : (ms.map Prod.fst).Nodup)
    (hne : ∀ k ∈ ms.map Prod.fst, k ≠ Script.prototypeName) : ownProperties ms = ms := by
  have hfilter : ms.filter (·.1 ≠ Script.prototypeName) = ms :=
    List.filter_eq_self.mpr fun p hp => by simpa using hne _ (List.mem_map_of_mem hp)
  rw [ownProperties, hfilter]
  exact foldl_setProperty_of_nodup h

/-- A datum that holds a value: the properties of an object are exactly the keys of the mapping, in
any order, each holding the value under its key. -/
inductive Holds : Value → Datum → Prop
  | null : Holds .null .null
  | bool (b : Bool) : Holds (.bool b) (.bool b)
  | int (i : Int) : Holds (.int i) (.int i)
  | str (s : String) : Holds (.str s) (.text s)
  | list {items : List Value} {ds : List Datum} (hlength : items.length = ds.length)
    (hitems : ∀ v d, (v, d) ∈ items.zip ds → Holds v d) : Holds (.list items) (.array ds)
  | map {es : Entries Value} {ps : List (String × Datum)} (hnodup : (ps.map Prod.fst).Nodup)
    (hnames : ∀ k, k ∈ ps.map Prod.fst ↔ .str k ∈ es.keys)
    (hvalues : ∀ k v d, (.str k, v) ∈ es → (k, d) ∈ ps → Holds v d) :
    Holds (.map es) (.object ps)

/-- What the literal of a plain value comes to once its text is read. -/
def Value.returned (v : Value) : Datum := v.datum settledName fun ms => .object (ownProperties ms)

def returnedMembers (es : Entries Value) : List (String × Datum) :=
  dataOfEntries settledName (fun ms => .object (ownProperties ms)) es

/-- The datum of an expression without fields, by the rules for objects of the script. -/
def literalDatum (n : Node) : Option Datum :=
  Script.evaluate (fun ms => .object (ownProperties ms)) (fun _ => .undefined) n

variable {voc : Vocabulary}

theorem memberName?_reread_key (k : String) :
    Script.memberName? (reread (.key k)) = some (settledName k) := by
  rw [Script.reread_key]
  cases hk : Naming.isIdentifierName k with
  | true => rfl
  | false =>
    have hself : settledName k = k := by simp [settledName, hk]
    rw [hself]
    rfl

theorem renames_reread : Renames reread settledName where
  null := rfl
  bool _ := rfl
  number _ := rfl
  text _ := rfl
  array ns := by rw [reread, Script.rereadAll_eq_map]
  object ms := by rw [reread, Script.rereadAll_eq_map]
  member k n := ⟨reread (.key k), memberName?_reread_key k, rfl⟩

/-- A name that is read as itself and is a property. -/
def Faithful (k : String) : Prop :=
  k ≠ Script.prototypeName ∧ ¬ (Naming.isIdentifierName k = true ∧ '\n' ∈ k.toList)

def wholeNumbers : Vocabulary where
  number v := ∃ i, v = .int i
  name _ := True
  component _ := False
  options _ _ := trivial

def faithful : Vocabulary where
  number v := ∃ i, v = .int i
  name := Faithful
  component _ := False
  options := by
    have : ∀ k ∈ Script.optionNames, k ≠ Script.prototypeName ∧ '\n' ∉ k.toList := by decide
    exact fun k hk => ⟨(this k hk).1, fun h => (this k hk).2 h.2⟩

theorem Entries.IsPlain.value_unique {α : Type} {es : Entries α} (h : es.IsPlain voc) {k : Value}
    {a b : α} (ha : (k, a) ∈ es) (hb : (k, b) ∈ es) : a = b := by
  induction es with
  | nil => cases ha
  | cons e es ih =>
    obtain ⟨hrest, l, hl, -, hnot⟩ := h.cons
    have hkey : ∀ {c : α}, (k, c) ∈ es → k ≠ .str l := fun hc heq =>
      hnot (heq ▸ List.mem_map_of_mem (f := Prod.fst) hc)
    rcases List.mem_cons.mp ha with ha | ha <;> rcases List.mem_cons.mp hb with hb | hb
    · exact (Prod.mk.inj (ha.trans hb.symm)).2
    · exact absurd (by rw [← hl, ← ha]) (hkey hb)
    · exact absurd (by rw [← hl, ← hb]) (hkey ha)
    · exact ih hrest ha hb

theorem names_returnedMembers {es : Entries Value} {ks : List String}
    (h : es.keys = ks.map .str) : (returnedMembers es).map Prod.fst = ks.map settledName :=
  names_dataOfEntries h

theorem map_settledName {ks : List String} (h : ∀ k ∈ ks, settledName k = k) :
    ks.map settledName = ks := by
  rw [List.map_congr_left h, List.map_id']

theorem ownProperties_returnedMembers {es : Entries Value} (h : es.IsPlain faithful) :
    ownProperties (returnedMembers es) = returnedMembers es := by
  obtain ⟨ks, hkeys, hnodup, hfaithful⟩ := h
  have hnames : (returnedMembers es).map Prod.fst = ks := by
    rw [names_returnedMembers hkeys,
      map_settledName fun k hk => Script.settledName_eq_self_iff.mpr (hfaithful k hk).2]
  exact ownProperties_of_nodup (hnames ▸ hnodup) fun k hk => (hfaithful k (hnames ▸ hk)).1

theorem mem_returnedMembers {es : Entries Value} (h : es.IsPlain faithful) {k : String}
    {d : Datum} :
    (k, d) ∈ returnedMembers es ↔ ∃ v, (.str k, v) ∈ es ∧ v.returned = d := by
  have hself : ∀ {l : String} {v : Value}, (.str l, v) ∈ es → settledName l = l := fun he => by
    obtain ⟨l, hl, hfaithful⟩ := h.key he
    cases hl
    exact Script.settledName_eq_self_iff.mpr hfaithful.2
  rw [returnedMembers, mem_dataOfEntries]
  constructor
  · rintro ⟨l, v, he, rfl, rfl⟩
    exact ⟨v, (hself he).symm ▸ he, rfl⟩
  · rintro ⟨v, he, rfl⟩
    exact ⟨k, v, he, hself he, rfl⟩

theorem holds_map_of_faithful {es : Entries Value} (h : es.IsPlain faithful)
    (hvalues : ∀ e ∈ es, Holds e.2 e.2.returned) :
    Holds (.map es) (Value.map es).returned := by
  have hnames : ∀ k, k ∈ (returnedMembers es).map Prod.fst ↔ .str k ∈ es.keys := by
    intro k
    simp only [List.mem_map, Prod.exists, mem_returnedMembers h, Entries.keys]
    constructor
    · rintro ⟨l, d, ⟨v, he, -⟩, rfl⟩
      exact ⟨_, v, he, rfl⟩
    · rintro ⟨key, v, he, rfl⟩
      exact ⟨k, _, ⟨v, he, rfl⟩, rfl⟩
  have hreturned : (Value.map es).returned = .object (ownProperties (returnedMembers es)) := rfl
  rw [hreturned, ownProperties_returnedMembers h]
  refine .map ?_ hnames fun k v d hv hd => ?_
  · obtain ⟨ks, hkeys, hnodup, hfaithful⟩ := id h
    rw [names_returnedMembers hkeys,
      map_settledName fun k hk => Script.settledName_eq_self_iff.mpr (hfaithful k hk).2]
    exact hnodup
  · obtain ⟨w, hw, rfl⟩ := (mem_returnedMembers h).mp hd
    rw [h.value_unique hv hw]
    exact hvalues _ hw

/-- If every key of a mapping is the name of a property, then every key is read as itself, since
what a name is read as is read as itself. -/
theorem faithful_of_holds_map {es : Entries Value} (h : es.IsPlain wholeNumbers)
    (hholds : Holds (.map es) (Value.map es).returned) :
    es.IsPlain faithful ∧ ∀ e ∈ es, Holds e.2 e.2.returned := by
  have hreturned : (Value.map es).returned = .object (ownProperties (returnedMembers es)) := rfl
  rw [hreturned] at hholds
  cases hholds with
  | map hnodup hnames hvalues =>
    obtain ⟨ks, hkeys, hks, -⟩ := h
    have hfaithful : ∀ k ∈ ks, Faithful k := by
      intro k hk
      have hname := (hnames k).mpr (hkeys ▸ List.mem_map_of_mem hk)
      obtain ⟨hmem, hne⟩ := name_of_ownProperties hname
      rw [names_returnedMembers hkeys] at hmem
      obtain ⟨l, -, rfl⟩ := List.mem_map.mp hmem
      exact ⟨hne, Script.settledName_eq_self_iff.mp (Script.settledName_settledName l)⟩
    have hes : es.IsPlain faithful := ⟨ks, hkeys, hks, hfaithful⟩
    refine ⟨hes, fun e he => ?_⟩
    obtain ⟨k, hk, -⟩ := hes.key he
    obtain ⟨key, v⟩ := e
    cases hk
    apply hvalues k v _ he
    rw [ownProperties_returnedMembers hes, mem_returnedMembers hes]
    exact ⟨v, he, rfl⟩

theorem holds_list_iff {items : List Value} :
    Holds (.list items) (Value.list items).returned ↔ ∀ v ∈ items, Holds v v.returned := by
  have hzip : items.zip (items.map Value.returned) = items.map fun v => (v, v.returned) := by
    rw [← List.zip_map', List.map_id']
  have hreturned : (Value.list items).returned = .array (items.map Value.returned) :=
    congrArg Datum.array (dataOfItems_eq_map items)
  rw [hreturned]
  constructor
  · intro hholds
    cases hholds with
    | list hlength hitems =>
      intro v hv
      apply hitems
      rw [hzip]
      exact List.mem_map_of_mem hv
  · intro hitems
    refine .list (List.length_map _).symm ?_
    intro v d hd
    rw [hzip] at hd
    obtain ⟨w, hw, heq⟩ := List.mem_map.mp hd
    cases heq
    exact hitems v hw

/-- What a value returns holds the value exactly when all of its keys are faithful. -/
theorem holds_returned_iff {v : Value} (h : v.IsPlain wholeNumbers) :
    Holds v v.returned ↔ v.IsPlain faithful := by
  induction h with
  | null => exact ⟨fun _ => .null, fun _ => .null⟩
  | bool b => exact ⟨fun _ => .bool b, fun _ => .bool b⟩
  | @int i hi => exact ⟨fun _ => .int hi, fun _ => .int i⟩
  | float hx =>
    obtain ⟨i, hi⟩ := hx
    cases hi
  | str s => exact ⟨fun _ => .str s, fun _ => .str s⟩
  | list hitems ih =>
    rw [holds_list_iff]
    constructor
    · intro hholds
      exact .list fun v hv => (ih v hv).mp (hholds v hv)
    · intro hplain
      cases hplain with
      | list hplain => exact fun v hv => (ih v hv).mpr (hplain v hv)
  | map hentries hvalues ih =>
    constructor
    · intro hholds
      obtain ⟨hfaithful, hall⟩ := faithful_of_holds_map hentries hholds
      exact .map hfaithful fun e he => (ih e he).mp (hall e he)
    · intro hplain
      cases hplain with
      | map hfaithful hplain =>
        exact holds_map_of_faithful hfaithful fun e he => (ih e he).mpr (hplain e he)

theorem objectLiteral_map (es : Entries Value) :
    (Value.map es).objectLiteral = (Value.map es).literal := by
  rw [Value.objectLiteral, Value.entries, Value.literal]
  rfl

/-- The object that a component returns as its initial state, printed at any level and read again,
holds the state exactly when all keys of mappings are faithful. It is printed if all numbers can be
written and there is room for its margins. -/
theorem dataMethod_holds_iff [Machine] {state : Entries Value}
    (h : (Value.map state).IsPlain wholeNumbers) (s : Settings) :
    ∃ n, Component.dataMethod (.map state) = .ok (.objectMethod (.identifier (.str "data")) []
        (.blockStatement [.returnStatement (some n)])) ∧
      ∀ level,
        (∀ text, Script.printNode s.style level n = .ok (.str text) →
          ((∃ e d, Script.readExpression text = some e ∧ literalDatum e = some d ∧
            Holds (.map state) d) ↔ (Value.map state).IsPlain faithful)) ∧
        ((Value.map state).IsPlain wholeNumbers.limited → ∃ text, s.PrintsAs level n text) := by
  obtain ⟨n, hn, hassembled⟩ := h.literal
  obtain ⟨n', hn', hreturned⟩ := h.comesTo renames_reread
  obtain rfl : n = n' := Except.ok.inj (hn.symm.trans hn')
  have htyped : n.Everywhere Node.IsTyped := hassembled.isTyped fun v hv => .inl hv
  have hprints (hlimited : Assembled wholeNumbers.limited .expression n) (level : Nat) :=
    hlimited.printed s.readable_roomy
      (fun _ hv => Vocabulary.isShort_of_limited (fun _ hv => hv) hv) (fun _ hk => hk.elim) level
  refine ⟨n, ?_, fun level => ⟨fun text htext => ?_, fun hlimited => ?_⟩⟩
  · simp [Component.dataMethod, objectLiteral_map, hn]
  · obtain ⟨_, heq, hroomy, hnumerals⟩ := roomy_of_style htyped htext
    cases heq
    obtain ⟨_, hprint, t, -, hreads⟩ := hprints (hassembled.limited hnumerals) level
    cases hroomy.symm.trans hprint
    rw [Script.readExpression_of_reads hreads, ← holds_returned_iff h]
    constructor
    · rintro ⟨e, d, he, hd, hholds⟩
      split_ifs at he
      cases he
      cases hd.symm.trans (hreturned _)
      exact hholds
    · intro hholds
      obtain ⟨n', hn', hfaithful⟩ := ((holds_returned_iff h).mp hholds).literal
      obtain rfl : n = n' := Except.ok.inj (hn.symm.trans hn')
      have hself : reread n = n := hfaithful.reread_eq_self
        (fun k hk => Script.settledName_eq_self_iff.mpr hk.2) (fun _ hk => hk.elim)
      have hdatum : literalDatum (reread n) = some (Value.map state).returned := hreturned _
      rw [hself] at hdatum ⊢
      exact ⟨n, _, if_pos hfaithful.isLegal, hdatum, hholds⟩
  · obtain ⟨n', hn', hassembled⟩ := hlimited.literal
    obtain rfl : n = n' := Except.ok.inj (hn.symm.trans hn')
    obtain ⟨text, hprint, -⟩ := hprints hassembled level
    exact ⟨text, printsAs_of_roomy htyped hprint⟩

section

open Componentry.Program

/-- A field whose name ends with a line feed is not returned, however the object is printed. -/
theorem dataMethod_holds_iff_lineFeed :
    ∃ n, Component.dataMethod (.map [(.str "a\n", .int 1)]) =
        .ok (.objectMethod (.identifier (.str "data")) []
          (.blockStatement [.returnStatement (some n)])) ∧
      (∃ text, Script.printNode Settings.default.style 0 n = .ok (.str text)) ∧
      ∀ level text, Script.printNode Settings.default.style level n = .ok (.str text) →
        ¬ ∃ e d, Script.readExpression text = some e ∧ literalDatum e = some d ∧
          Holds (.map [(.str "a\n", .int 1)]) d := by
  have hplain : (Value.map [(.str "a\n", .int 1)]).IsPlain wholeNumbers :=
    .map ⟨["a\n"], rfl, by decide, fun _ _ => trivial⟩ (by simpa using .int ⟨1, rfl⟩)
  obtain ⟨n, hn, hlevel⟩ := dataMethod_holds_iff hplain Settings.default
  have hobject : n = .objectExpression
      [.objectProperty (.identifier (.str "a\n")) (.numericLiteral (.int 1)) (.bool false)] := by
    cases hn
    rfl
  refine ⟨n, hn, ⟨_, by rw [hobject]; rfl⟩, fun level text htext => ?_⟩
  refine mt ((hlevel level).1 text htext).mp fun hfaithful => ?_
  cases hfaithful with
  | map hentries _ =>
    obtain ⟨k, hk, -, hbare⟩ := hentries.key List.mem_cons_self
    cases hk
    exact hbare (by decide)

end

end Componentry
