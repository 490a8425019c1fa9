import Componentry.Component.Reader
import Componentry.Proofs.Component.Typed

/-!
# Descriptions that can be read

A description of a component is a map of JSON whose numbers can be written. As long as the members
that it has are of the kinds that descriptions are meant to have, it is read without a fault, and
what is read is a document with the props, the fields, the events and the dependencies of the
description in their order.
-/

namespace Componentry

open Script (Vocabulary)

namespace Value

def IsText (v : Value) : Prop := ∃ s, v = .str s

def IsListOf (P : Value → Prop) (v : Value) : Prop := ∃ xs, v = .list xs ∧ ∀ x ∈ xs, P x

def IsMapOf (P : Value → Prop) (v : Value) : Prop := ∃ es, v = .map es ∧ ∀ e ∈ es, P e.2

def IsMap : Value → Prop := IsMapOf fun _ => True

end Value

namespace Entries

/-- The member under a key, if there is one, is of some kind. -/
def Has (es : Entries Value) (key : String) (P : Value → Prop) : Prop := ∀ v ∈ es.get? key, P v

def entriesAt (es : Entries Value) (key : String) : Entries Value :=
  match es.get? key with
  | some (.map fs) => fs
  | _ => []

def itemsAt (es : Entries Value) (key : String) : List Value :=
  match es.get? key with
  | some (.list xs) => xs
  | _ => []

structure DescribesStatement (es : Entries Value) : Prop where
  modifies : es.Has "modifies" Value.IsText
  calls : es.Has "calls" fun v => v = .null ∨ v.IsText
  args : es.Has "args" (Value.IsListOf fun _ => True)

/-- Statements of an event. -/
def DescribeStatements : Value → Prop :=
  Value.IsListOf fun v => ∃ es, v = .map es ∧ DescribesStatement es

/-- A map of JSON whose members, where they are there, are those of a description. -/
structure DescribeDocument (es : Entries Value) : Prop where
  plain : (Value.map es).IsPlain written.limited
  name : es.Has "name" Value.IsText
  props : es.Has "propDefinitions" (Value.IsMapOf Value.IsMap)
  state : es.Has "stateDefinitions" (Value.IsMapOf Value.IsMap)
  dependencies : es.Has "dependencies" (Value.IsListOf Value.IsText)
  methods : es.Has "methods" (Value.IsMapOf DescribeStatements)

end Entries

section

variable {voc : Vocabulary} {es : Entries Value} {key : String} {v : Value}
  {P : Value → Prop}

theorem exists_mem_of_find? {α : Type} {es : Entries α} {key : Value} {a : α}
    (h : es.find? key = some a) : ∃ e ∈ es, e.2 = a := by
  induction es with
  | nil => cases h
  | cons e es ih =>
    rw [Entries.find?] at h
    split_ifs at h
    · exact ⟨e, List.mem_cons_self, Option.some.inj h⟩
    · obtain ⟨f, hf, heq⟩ := ih h
      exact ⟨f, List.mem_cons_of_mem e hf, heq⟩

theorem Value.IsPlain.entry (h : (Value.map es).IsPlain voc) {e : Value × Value}
    (he : e ∈ es) : e.2.IsPlain voc := by
  cases h with
  | map _ hvalues => exact hvalues e he

theorem Value.IsPlain.item {xs : List Value} (h : (Value.list xs).IsPlain voc) {x : Value}
    (hx : x ∈ xs) : x.IsPlain voc := by
  cases h with
  | list hitems => exact hitems x hx

theorem Value.IsPlain.keys (h : (Value.map es).IsPlain voc) : es.IsPlain voc := by
  cases h with
  | map hentries _ => exact hentries

theorem Value.IsPlain.member (h : (Value.map es).IsPlain voc) (hv : es.get? key = some v) :
    v.IsPlain voc := by
  obtain ⟨e, he, rfl⟩ := exists_mem_of_find? hv
  exact h.entry he

theorem Value.IsPlain.memberOrNull (h : (Value.map es).IsPlain voc) (key : String) :
    ((es.get? key).getD .null).IsPlain voc := by
  cases hv : es.get? key with
  | none => exact .null
  | some v => exact h.member hv

theorem orEmpty_map (es : Entries Value) : (Value.map es).orEmpty = .map es := by
  cases es <;> rfl

theorem itemsOrNone_list (xs : List Value) : (Value.list xs).itemsOrNone = .ok xs := by
  cases xs <;> rfl

/-- A member that is a map, or is not there, is read as its entries. -/
theorem Entries.Has.entries (h : es.Has key (Value.IsMapOf P)) :
    ((es.get? key).getD .null).orEmpty.entries = .ok (es.entriesAt key) ∧
      ∀ e ∈ es.entriesAt key, P e.2 := by
  unfold Entries.entriesAt
  cases hv : es.get? key with
  | none => exact ⟨rfl, fun _ he => nomatch he⟩
  | some v =>
    obtain ⟨fs, rfl, hfs⟩ := h v hv
    refine ⟨?_, hfs⟩
    rw [Option.getD_some, orEmpty_map]
    rfl

/-- A member that is a list, or is not there, is read as its items. -/
theorem Entries.Has.items (h : es.Has key (Value.IsListOf P)) :
    ((es.get? key).getD .null).itemsOrNone = .ok (es.itemsAt key) ∧
      ∀ x ∈ es.itemsAt key, P x := by
  unfold Entries.itemsAt
  cases hv : es.get? key with
  | none => exact ⟨rfl, fun _ hx => nomatch hx⟩
  | some v =>
    obtain ⟨xs, rfl, hxs⟩ := h v hv
    exact ⟨itemsOrNone_list xs, hxs⟩

theorem Value.IsPlain.entriesAt (h : (Value.map es).IsPlain voc) (key : String) :
    (Value.map (es.entriesAt key)).IsPlain voc := by
  have hnone : (Value.map []).IsPlain voc := .map ⟨[], rfl, List.nodup_nil, nofun⟩ nofun
  unfold Entries.entriesAt
  split
  · next hv => exact h.member hv
  · exact hnone

theorem Value.IsPlain.itemsAt (h : (Value.map es).IsPlain voc) (key : String) :
    ∀ x ∈ es.itemsAt key, x.IsPlain voc := by
  unfold Entries.itemsAt
  split
  · next hv => exact fun x hx => (h.member hv).item hx
  · exact nofun

end

section

variable {α : Type} {reader : Value → Result α} {es : Entries Value} {as : Entries α}

/-- An entry that was read under the key that it has. -/
def ReadAs (reader : Value → Result α) (e : Value × Value) (a : Value × α) : Prop :=
  e.1 = a.1 ∧ reader e.2 = .ok a.2

theorem readEach_ok (h : ∀ e ∈ es, ∃ a, reader e.2 = .ok a) :
    ∃ as, es.readEach reader = .ok as ∧ List.Forall₂ (ReadAs reader) es as := by
  induction es with
  | nil => exact ⟨[], rfl, .nil⟩
  | cons e es ih =>
    obtain ⟨a, ha⟩ := h e List.mem_cons_self
    obtain ⟨as, has, hread⟩ := ih fun f hf => h f (List.mem_cons_of_mem e hf)
    refine ⟨(e.1, a) :: as, ?_, .cons ⟨rfl, ha⟩ hread⟩
    rw [Entries.readEach, ha, has]
    rfl

theorem keys_eq_of_readAs (h : List.Forall₂ (ReadAs reader) es as) : as.keys = es.keys := by
  induction h with
  | nil => rfl
  | cons he _ ih => exact List.cons_eq_cons.mpr ⟨he.1.symm, ih⟩

end

theorem PropDefinition.ofValue_map (es : Entries Value) :
    PropDefinition.ofValue (.map es) = .ok ⟨(es.get? "type").getD .null, es.get? "defaultValue",
      ((es.get? "isRequired").getD (.bool false)).truthy⟩ := rfl

/-- A definition whose values are plain. -/
structure PropDefinition.IsRead (voc : Vocabulary) (d : PropDefinition) : Prop where
  type : d.type.IsPlain voc
  default : ∀ v ∈ d.default, v.IsPlain voc

theorem PropDefinition.isRead {voc : Vocabulary} {v : Value} (hv : v.IsMap)
    (hplain : v.IsPlain voc) : ∃ d, PropDefinition.ofValue v = .ok d ∧ d.IsRead voc := by
  obtain ⟨es, rfl, -⟩ := hv
  refine ⟨_, PropDefinition.ofValue_map es, hplain.memberOrNull "type", ?_⟩
  exact fun v hv => hplain.member hv

theorem Component.initialValue_isPlain {voc : Vocabulary} {v : Value} (hv : v.IsMap)
    (hplain : v.IsPlain voc) : ∃ w, Component.initialValue v = .ok w ∧ w.IsPlain voc := by
  obtain ⟨es, rfl, -⟩ := hv
  exact ⟨_, rfl, hplain.memberOrNull "defaultValue"⟩

section

variable {es : Entries Value}

theorem Entries.DescribesStatement.read (h : es.DescribesStatement)
    (hplain : (Value.map es).IsPlain written.limited) :
    ∃ s, Statement.ofValue (.map es) = .ok s ∧ s.IsPlain written.limited := by
  unfold Statement.ofValue
  rw [Value.entries, Result.ok_bind]
  split_ifs
  · rw [h.args.items.1]
    refine ⟨_, rfl, .propCall ?_ (hplain.itemsAt "args")⟩
    cases hcalls : es.get? "calls" with
    | none => exact .inl rfl
    | some v => exact h.calls v hcalls
  · refine ⟨_, rfl, ?_⟩
    have htarget : ∃ k, (es.get? "modifies").getD (.str "") = .str k := by
      cases hmodifies : es.get? "modifies" with
      | none => exact ⟨"", rfl⟩
      | some v => exact h.modifies v hmodifies
    obtain ⟨k, hk⟩ := htarget
    rw [hk]
    exact .stateChange trivial (hplain.memberOrNull "newState")

theorem Statement.listOfValue_isPlain {v : Value} (hv : Entries.DescribeStatements v)
    (hplain : v.IsPlain written.limited) :
    ∃ ss, Statement.listOfValue v = .ok ss ∧ ∀ s ∈ ss, s.IsPlain written.limited := by
  obtain ⟨xs, rfl, hxs⟩ := hv
  have hitems : ∀ x ∈ xs, x.IsPlain written.limited := fun x hx => hplain.item hx
  rw [Statement.listOfValue, itemsOrNone_list, Result.ok_bind]
  clear hplain
  induction xs with
  | nil => exact ⟨[], rfl, nofun⟩
  | cons x xs ih =>
    obtain ⟨⟨es, rfl, hstatement⟩, hrest⟩ := List.forall_mem_cons.mp hxs
    obtain ⟨hfirst, hothers⟩ := List.forall_mem_cons.mp hitems
    obtain ⟨s, hs, hsplain⟩ := hstatement.read hfirst
    obtain ⟨ss, hss, hssplain⟩ := ih hrest hothers
    rw [List.mapM_cons, hs, hss]
    exact ⟨s :: ss, rfl, List.forall_mem_cons.mpr ⟨hsplain, hssplain⟩⟩

end

/-- A document as it is read: names and dependencies are texts, and values are plain, with numbers
that can be written. -/
structure Document.IsRead (d : Document) : Prop where
  name : d.component.name.IsText
  props : d.component.props.IsPlain written.limited
  definitions : ∀ e ∈ d.component.props, e.2.IsRead written.limited
  state : (Value.map d.component.state).IsPlain written.limited
  handlers : Handlers.IsPlain written.limited d.handlers
  dependencies : ∀ v ∈ d.dependencies, v.IsText

/-- A document has in order what a description has. -/
structure Document.ReadFrom (es : Entries Value) (d : Document) : Prop where
  name : d.component.name = (es.get? "name").getD (.str "")
  props : List.Forall₂ (ReadAs PropDefinition.ofValue) (es.entriesAt "propDefinitions")
    d.component.props
  state : List.Forall₂ (ReadAs Component.initialValue) (es.entriesAt "stateDefinitions")
    d.component.state
  dependencies : d.dependencies = es.itemsAt "dependencies"
  handlers : List.Forall₂ (ReadAs Statement.listOfValue) (es.entriesAt "methods") d.handlers

section

variable {α : Type} {reader : Value → Result α} {es : Entries Value} {key : String}
  {P : Value → Prop} {Q : α → Prop}

/-- A member whose entries can each be read is read with them. -/
theorem Entries.Has.readEach (h : es.Has key (Value.IsMapOf P))
    (hplain : (Value.map es).IsPlain written.limited)
    (hreader : ∀ v, P v → v.IsPlain written.limited → ∃ a, reader v = .ok a ∧ Q a) :
    ∃ as : Entries α,
      (do Entries.readEach reader (← ((es.get? key).getD .null).orEmpty.entries)) = .ok as ∧
        List.Forall₂ (ReadAs reader) (es.entriesAt key) as ∧ as.IsPlain written.limited ∧
        ∀ a ∈ as, Q a.2 := by
  obtain ⟨hentries, hkind⟩ := h.entries
  have hall := hplain.entriesAt key
  have hread : ∀ e ∈ es.entriesAt key, ∃ a, reader e.2 = .ok a ∧ Q a :=
    fun e he => hreader e.2 (hkind e he) (hall.entry he)
  obtain ⟨as, has, hforall⟩ := readEach_ok fun e he => (hread e he).imp fun a ha => ha.1
  refine ⟨as, ?_, hforall, hall.keys.of_keys (keys_eq_of_readAs hforall), fun a ha => ?_⟩
  · rw [hentries, Result.ok_bind, has]
  · obtain ⟨e, he, -, heq⟩ := exists_of_forall₂ hforall a ha
    obtain ⟨b, hb, hq⟩ := hread e he
    obtain rfl : b = a.2 := Except.ok.inj (hb.symm.trans heq)
    exact hq

end

theorem Entries.DescribeDocument.read {es : Entries Value} (h : es.DescribeDocument) :
    ∃ d, Document.ofValue (.map es) = .ok d ∧ d.ReadFrom es ∧ d.IsRead := by
  obtain ⟨props, hprops, hpropsFrom, hpropsKeys, hdefinitions⟩ :=
    h.props.readEach h.plain fun v hv hplain => PropDefinition.isRead hv hplain
  obtain ⟨state, hstate, hstateFrom, hstateKeys, hvalues⟩ :=
    h.state.readEach h.plain fun v hv hplain => Component.initialValue_isPlain hv hplain
  obtain ⟨handlers, hhandlers, hhandlersFrom, hevents, hstatements⟩ :=
    h.methods.readEach h.plain fun v hv hplain => Statement.listOfValue_isPlain hv hplain
  obtain ⟨hdependencies, htexts⟩ := h.dependencies.items
  have hname : ((es.get? "name").getD (.str "")).IsText := by
    cases hmember : es.get? "name" with
    | none => exact ⟨"", rfl⟩
    | some v => exact h.name v hmember
  have hcomponent : Component.ofValue (.map es) =
      .ok ⟨(es.get? "name").getD (.str ""), props, state⟩ := by
    have hprops : PropDefinition.allOfValue ((es.get? "propDefinitions").getD .null) = .ok props :=
      hprops
    obtain ⟨fields, hfields, hstate⟩ := Result.bind_eq_ok.mp hstate
    rw [Component.ofValue, Value.entries, Result.ok_bind, hprops, Result.ok_bind, hfields,
      Result.ok_bind, hstate]
    rfl
  refine ⟨⟨⟨_, props, state⟩, es.itemsAt "dependencies", handlers⟩, ?_,
    ⟨rfl, hpropsFrom, hstateFrom, rfl, hhandlersFrom⟩, ?_⟩
  · have hhandlers : Handlers.ofValue ((es.get? "methods").getD .null) = .ok handlers := hhandlers
    have hmember (key : String) :
        (Value.map es).member key = .ok ((es.get? key).getD .null) := rfl
    rw [Document.ofValue, hcomponent, Result.ok_bind, hmember, Result.ok_bind, hdependencies,
      Result.ok_bind, hmember, Result.ok_bind, hhandlers]
    rfl
  · exact ⟨hname, hpropsKeys, hdefinitions, .map hstateKeys hvalues, ⟨hevents, hstatements⟩, htexts⟩

end Componentry
