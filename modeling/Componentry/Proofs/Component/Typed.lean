import Componentry.Proofs.Component.Declared
import Componentry.Proofs.Script.Carried
import Componentry.Proofs.Script.Roomy

/-!
# Typed documents

A document is typed if each of its parts is of the kind that descriptions are meant to have: texts
for names, and plain values. What a typed document still may have wrong is found when it is
declared, so a typed document with a declaration is plain.
-/

namespace Componentry

open Script (Vocabulary Assembled)

/-- All numbers that can be written, any names, and names that can refer to a component. -/
def written : Vocabulary where
  number := Script.IsNumber
  name _ := True
  component k := Naming.isReference k = true
  options _ _ := trivial

theorem Value.IsPlain.of_limited {voc : Vocabulary} {v : Value} (h : v.IsPlain voc.limited) :
    v.IsPlain voc :=
  h.mono (fun _ hv => hv.1) fun _ hk => hk

theorem exists_displayItems {items : List Value} (h : ∀ v ∈ items, ∃ s, v.display = some s) :
    ∃ ss, displayItems items = some ss := by
  induction items with
  | nil => exact ⟨[], rfl⟩
  | cons v items ih =>
    obtain ⟨⟨s, hs⟩, hrest⟩ := List.forall_mem_cons.mp h
    obtain ⟨ss, hss⟩ := ih hrest
    exact ⟨s :: ss, by rw [displayItems, hs, hss]; rfl⟩

theorem exists_displayEntries {es : Entries Value} (hkeys : ∀ e ∈ es, ∃ k, e.1 = .str k)
    (h : ∀ e ∈ es, ∃ s, e.2.display = some s) : ∃ ss, displayEntries es = some ss := by
  induction es with
  | nil => exact ⟨[], rfl⟩
  | cons e es ih =>
    obtain ⟨⟨k, hk⟩, hothers⟩ := List.forall_mem_cons.mp hkeys
    obtain ⟨⟨s, hs⟩, hrest⟩ := List.forall_mem_cons.mp h
    obtain ⟨ss, hss⟩ := ih hothers hrest
    exact ⟨_ :: ss, by rw [displayEntries, hk, hs, hss]; rfl⟩

/-- Plain values whose numbers can be written can be displayed. -/
theorem Value.IsPlain.exists_display {voc : Vocabulary} {v : Value} (h : v.IsPlain voc.limited) :
    ∃ s, v.display = some s := by
  induction h with
  | null => exact ⟨_, rfl⟩
  | bool b => cases b <;> exact ⟨_, rfl⟩
  | int hi =>
    obtain ⟨-, s, hs⟩ := hi
    exact ⟨_, Text.integer_of_isShort (Script.numeral_int_eq_ok hs).1⟩
  | float | str s => exact ⟨_, rfl⟩
  | list _ ih =>
    obtain ⟨ss, hss⟩ := exists_displayItems ih
    exact ⟨_, by rw [display, hss]; rfl⟩
  | map hentries _ ih =>
    obtain ⟨ss, hss⟩ := exists_displayEntries
      (fun e he => (hentries.key he).imp fun _ hk => hk.1) ih
    exact ⟨_, by rw [display, hss]; rfl⟩

theorem Value.IsPlain.exists_shown {voc : Vocabulary} {v : Value} (h : v.IsPlain voc.limited) :
    ∃ s, v.shown = some s := by
  cases v with
  | str s => exact ⟨s, rfl⟩
  | _ => exact h.exists_display

/-- A document whose names are texts and whose values are plain. -/
structure Document.IsTyped (d : Document) : Prop where
  name : ∃ s, d.component.name = .str s
  props : d.component.props.IsPlain written
  defaults : ∀ e ∈ d.component.props, ∀ v ∈ e.2.default, v.IsPlain written
  state : (Value.map d.component.state).IsPlain written
  handlers : Handlers.IsPlain written d.handlers

theorem kind_of_descriptor {d : PropDefinition} {name v : Value} (h : d.descriptor name = .ok v) :
    ∃ kind, d.kind? = some kind := by
  cases hkind : d.kind? with
  | some kind => exact ⟨kind, rfl⟩
  | none =>
    rw [PropDefinition.descriptor, hkind] at h
    obtain ⟨_, -, h⟩ := Result.bind_eq_ok.mp h
    obtain ⟨_, -, h⟩ := Result.bind_eq_ok.mp h
    cases h

theorem kinds_of_descriptors {props : Entries PropDefinition} {es : Entries Value}
    (h : PropDefinition.descriptors props = .ok es) :
    ∀ e ∈ props, ∃ kind, e.2.kind? = some kind := by
  induction props generalizing es with
  | nil => exact fun _ he => nomatch he
  | cons p props ih =>
    rw [PropDefinition.descriptors] at h
    obtain ⟨v, hv, h⟩ := Result.bind_eq_ok.mp h
    obtain ⟨rest, hrest, -⟩ := Result.bind_eq_ok.mp h
    exact List.forall_mem_cons.mpr ⟨kind_of_descriptor hv, ih hrest⟩

theorem references_of_check {names : List Value} (h : Component.checkDependencies names = .ok ()) :
    ∀ d ∈ names, ∃ k, d = .str k ∧ Naming.isReference k = true := by
  induction names with
  | nil => exact fun _ hd => nomatch hd
  | cons d names ih =>
    rw [Component.checkDependencies] at h
    obtain ⟨k, hk, h⟩ := Result.bind_eq_ok.mp h
    have hd : d = .str k := by
      cases d <;> cases hk
      rfl
    split_ifs at h with hreference
    · exact List.forall_mem_cons.mpr ⟨⟨k, hd, hreference⟩, ih h⟩

theorem optional_of_ok {present : Bool} {member : Recorded Node} {ns : List Node}
    (h : (Component.optional present member).result = .ok ns) (hpresent : present = true) :
    ∃ n, member.result = .ok n := by
  subst hpresent
  simp only [Component.optional, if_true, Recorded.result_bind] at h
  obtain ⟨n, hn, -⟩ := Result.bind_eq_ok.mp h
  exact ⟨n, hn⟩

/-- A typed document with a declaration is plain: its declaration begins with its name and consists
of the nodes of declarations. -/
theorem Document.IsTyped.declaration {d : Document} (h : d.IsTyped) {n : Node}
    (hn : d.declaration.result = .ok n) :
    ∃ ms, n = .exportDefault (.objectExpression
        (Component.option "name" (.stringLiteral d.component.name) :: ms)) ∧
      Assembled written .expression (.objectExpression
        (Component.option "name" (.stringLiteral d.component.name) :: ms)) := by
  have hmembers := hn
  rw [Document.declaration, Component.declaration, Recorded.result_bind] at hmembers
  obtain ⟨ms, hmembers, -⟩ := Result.bind_eq_ok.mp hmembers
  simp only [Component.members, Recorded.result_bind] at hmembers
  obtain ⟨props, hprops, hmembers⟩ := Result.bind_eq_ok.mp hmembers
  obtain ⟨components, hcomponents, -⟩ := Result.bind_eq_ok.mp hmembers
  have hkinds : ∀ e ∈ d.component.props, ∃ kind, e.2.kind? = some kind := by
    intro e he
    obtain ⟨m, hm⟩ := optional_of_ok hprops (by simp [List.ne_nil_of_mem he])
    obtain ⟨es, hes, -⟩ := Result.bind_eq_ok.mp hm
    exact kinds_of_descriptors hes e he
  have hreferences : ∀ e ∈ d.dependencies, ∃ k, e = .str k ∧ Naming.isReference k = true := by
    intro e he
    obtain ⟨m, hm⟩ := optional_of_ok hcomponents (by simp [List.ne_nil_of_mem he])
    obtain ⟨used, hused, -⟩ := Result.bind_eq_ok.mp hm
    obtain ⟨_, hcheck, -⟩ := Result.bind_eq_ok.mp hused
    exact references_of_check hcheck e he
  have hplain : d.component.IsPlain written :=
    ⟨h.name, h.props, fun e he => ⟨hkinds e he, h.defaults e he⟩⟩
  obtain ⟨ms, hms, hassembled⟩ := hplain.declaration
    (fun e he => (hreferences e he).imp fun k hk => ⟨hk.1, hk.2, hk.2⟩) h.state h.handlers
  rw [Document.declaration, Component.initialState, hms] at hn
  cases hn
  exact ⟨ms, rfl, hassembled⟩

/-- What is printed of a typed document is the text with room for every margin, of a declaration
whose numbers can be written. -/
theorem Document.IsTyped.printed [Machine] {d : Document} (h : d.IsTyped) {s : Settings} {n : Node}
    {v : Value} (hn : d.declaration.result = .ok n) (hv : Script.print s.style n = .ok v) :
    ∃ ms text, n = .exportDefault (.objectExpression
        (Component.option "name" (.stringLiteral d.component.name) :: ms)) ∧
      v = .str text ∧ Script.print s.roomy n = .ok (.str text) ∧
      Assembled written.limited .expression (.objectExpression
        (Component.option "name" (.stringLiteral d.component.name) :: ms)) := by
  obtain ⟨ms, rfl, hassembled⟩ := h.declaration hn
  have htyped : (Node.exportDefault _).Everywhere Node.IsTyped :=
    .intro trivial (List.forall_mem_singleton.mpr (hassembled.isTyped fun _ hv => hv))
  obtain ⟨text, rfl, hroomy, hnumerals⟩ := roomy_of_style htyped hv
  exact ⟨ms, text, rfl, rfl, hroomy,
    hassembled.limited (hnumerals.children _ List.mem_cons_self)⟩

end Componentry
