import Componentry.Proofs.Component.Described
import Componentry.Proofs.Json.Complete

/-!
# What a document may have wrong

A document that was read from a description may have two things wrong: props of no known type, and
dependencies that nothing can be referred to by. Its declaration fails with the first of them, all
props coming before all dependencies, and if there is none it does not fail.
-/

namespace Componentry

open Script (Vocabulary)

theorem PropDefinition.IsRead.entries {voc : Vocabulary} {d : PropDefinition} (h : d.IsRead voc)
    (hnames : ∀ k, voc.name k) : (Value.map d.entries).IsPlain voc := by
  obtain ⟨htype, hdefault⟩ := h
  have hmap (ks : List String) (hnodup : ks.Nodup) {es : Entries Value}
      (hkeys : es.keys = ks.map .str) (hvalues : ∀ e ∈ es, e.2.IsPlain voc) :
      (Value.map es).IsPlain voc := .map ⟨ks, hkeys, hnodup, fun k _ => hnames k⟩ hvalues
  have hrequired : (Value.bool true).IsPlain voc := .bool true
  cases hd : d.default with
  | none =>
    cases hr : d.required with
    | false =>
      rw [PropDefinition.entries, hd, hr]
      exact hmap ["type"] (by decide) rfl (by simpa using htype)
    | true =>
      rw [PropDefinition.entries, hd, hr]
      exact hmap ["type", "isRequired"] (by decide) rfl (by simpa using ⟨htype, hrequired⟩)
  | some v =>
    have hv := hdefault v hd
    cases hr : d.required with
    | false =>
      rw [PropDefinition.entries, hd, hr]
      exact hmap ["type", "defaultValue"] (by decide) rfl (by simpa using ⟨htype, hv⟩)
    | true =>
      rw [PropDefinition.entries, hd, hr]
      exact hmap ["type", "defaultValue", "isRequired"] (by decide) rfl
        (by simpa using ⟨htype, hv, hrequired⟩)

/-- The first thing that a document has wrong. -/
inductive Document.Flaw (d : Document) : GenerationError → Prop
  | prop {before after : Entries PropDefinition} {name s : String} {p : PropDefinition}
    (hprops : d.component.props = before ++ (.str name, p) :: after)
    (hbefore : ∀ e ∈ before, ∃ kind, e.2.kind? = some kind) (hkind : p.kind? = none)
    (hwritten : Json.writeLine (.map p.entries) = .ok s) :
    Flaw d (.unsupportedProp (.str name) (.map p.entries) name s)
  | dependency {before after : List Value} {k : String}
    (hprops : ∀ e ∈ d.component.props, ∃ kind, e.2.kind? = some kind)
    (hdependencies : d.dependencies = before ++ .str k :: after)
    (hbefore : ∀ v ∈ before, ∃ j, v = .str j ∧ Naming.isReference j = true)
    (hname : Naming.isReference k = false) : Flaw d (.badDependency k)

/-- A document with nothing wrong. -/
structure Document.IsSound (d : Document) : Prop where
  kinds : ∀ e ∈ d.component.props, ∃ kind, e.2.kind? = some kind
  references : ∀ v ∈ d.dependencies, ∃ k, v = .str k ∧ Naming.isReference k = true

/-- Either all have a property, or there is a first one that does not have it. -/
theorem forall_or_exists_first {α : Type} (P : α → Prop) (xs : List α) :
    (∀ x ∈ xs, P x) ∨
      ∃ before x after, xs = before ++ x :: after ∧ (∀ y ∈ before, P y) ∧ ¬ P x := by
  induction xs with
  | nil => exact .inl nofun
  | cons x xs ih =>
    by_cases hx : P x
    · rcases ih with hall | ⟨before, y, after, rfl, hbefore, hy⟩
      · exact .inl (List.forall_mem_cons.mpr ⟨hx, hall⟩)
      · exact .inr ⟨x :: before, y, after, rfl, List.forall_mem_cons.mpr ⟨hx, hbefore⟩, hy⟩
    · exact .inr ⟨[], x, xs, rfl, nofun, hx⟩

section

variable {d : Document}

/-- A definition with numbers that can be written can be written itself. -/
theorem PropDefinition.IsRead.writeLine {p : PropDefinition} (h : p.IsRead written.limited) :
    ∃ s, Json.writeLine (.map p.entries) = .ok s := by
  refine Json.writeLine_eq_ok_iff.mpr fun q hq =>
    Option.eq_none_iff_forall_ne_some.mpr fun e he => ?_
  obtain ⟨-, i, -, ⟨-, s, hs⟩, hlong⟩ := (h.entries fun _ => trivial).fault hq he
  exact hlong (Script.numeral_int_eq_ok hs).1

theorem Document.IsRead.isSound_or_flaw (h : d.IsRead) : d.IsSound ∨ ∃ e, d.Flaw e := by
  rcases forall_or_exists_first (fun e => ∃ kind, e.2.kind? = some kind) d.component.props with
    hkinds | ⟨before, ⟨name, p⟩, after, hprops, hbefore, hkind⟩
  · rcases forall_or_exists_first (fun v => ∃ k, v = .str k ∧ Naming.isReference k = true)
      d.dependencies with hreferences | ⟨before, v, after, hdependencies, hbefore, hname⟩
    · exact .inl ⟨hkinds, hreferences⟩
    · obtain ⟨k, rfl⟩ := h.dependencies v (hdependencies ▸ List.mem_append_cons_self)
      have hfalse : Naming.isReference k = false :=
        Bool.eq_false_iff.mpr fun htrue => hname ⟨k, rfl, htrue⟩
      exact .inr ⟨_, .dependency hkinds hdependencies hbefore hfalse⟩
  · have hmem : (name, p) ∈ d.component.props := hprops ▸ List.mem_append_cons_self
    obtain ⟨k, rfl, -⟩ : ∃ k, name = .str k ∧ True := h.props.key hmem
    obtain ⟨s, hs⟩ := (h.definitions _ hmem).writeLine
    have hnone : p.kind? = none := Option.eq_none_iff_forall_ne_some.mpr fun kind hsome =>
      hkind ⟨kind, hsome⟩
    exact .inr ⟨_, .prop hprops hbefore hnone hs⟩

theorem PropDefinition.descriptors_append {before after : Entries PropDefinition}
    {es : Entries Value} {name : Value} {p : PropDefinition} {f : Failure}
    (hbefore : descriptors before = .ok es) (hp : p.descriptor name = .error f) :
    descriptors (before ++ (name, p) :: after) = .error f := by
  induction before generalizing es with
  | nil =>
    rw [List.nil_append, descriptors, hp]
    rfl
  | cons e before ih =>
    obtain ⟨v, hv, hbefore⟩ := Result.bind_eq_ok.mp hbefore
    obtain ⟨rest, hrest, -⟩ := Result.bind_eq_ok.mp hbefore
    rw [List.cons_append, descriptors, hv, ih hrest]
    rfl

theorem PropDefinition.descriptor_of_unknown {p : PropDefinition} (hkind : p.kind? = none)
    (name : Value) : p.descriptor name = p.unsupported name := by
  rw [descriptor, hkind]

/-- A prop of no known type is reported if its definition can be written. -/
theorem PropDefinition.unsupported_str {p : PropDefinition} (name : String) :
    p.unsupported (.str name) = Json.writeLine (.map p.entries) >>= fun s =>
      .error (.generation (.unsupportedProp (.str name) (.map p.entries) name s)) := rfl

theorem descriptors_error {voc : Vocabulary} {before after : Entries PropDefinition} {name : Value}
    {p : PropDefinition} {f : Failure} (hbefore : ∀ e ∈ before, e.2.IsPlain voc)
    (hkind : p.kind? = none) (hf : p.unsupported name = .error f) :
    PropDefinition.descriptors (before ++ (name, p) :: after) = .error f := by
  obtain ⟨es, hes, -⟩ := descriptors_assembled hbefore
  exact PropDefinition.descriptors_append hes ((p.descriptor_of_unknown hkind name).trans hf)

theorem checkDependencies_error {before after : List Value} {k : String}
    (hbefore : ∀ v ∈ before, ∃ j, v = .str j ∧ Naming.isReference j = true)
    (hname : Naming.isReference k = false) :
    Component.checkDependencies (before ++ .str k :: after) =
      .error (.generation (.badDependency k)) := by
  induction before with
  | nil =>
    rw [List.nil_append, Component.checkDependencies, Value.text, Result.ok_bind, hname]
    rfl
  | cons v before ih =>
    obtain ⟨⟨j, rfl, hreference⟩, hothers⟩ := List.forall_mem_cons.mp hbefore
    rw [List.cons_append, Component.checkDependencies, Value.text, Result.ok_bind, hreference,
      if_pos rfl, ih hothers]

theorem optional_error {member : Recorded Node} {e : Failure} (h : member.result = .error e) :
    (Component.optional true member).result = .error e := by
  rw [Component.optional, if_pos rfl, Recorded.result_bind, h]
  rfl

theorem Document.IsRead.isPlain (h : d.IsRead)
    (hkinds : ∀ e ∈ d.component.props, ∃ kind, e.2.kind? = some kind) :
    d.component.IsPlain written.limited :=
  ⟨h.name, h.props, fun e he => ⟨hkinds e he, (h.definitions e he).default⟩⟩

/-- Props that cannot be declared fail before anything else of a document does. -/
theorem Document.declaration_of_descriptors {f : Failure}
    (h : PropDefinition.descriptors d.component.props = .error f) :
    d.declaration.result = .error f := by
  have hpresent : (!d.component.props.isEmpty) = true := by
    cases hprops : d.component.props with
    | nil =>
      rw [hprops] at h
      cases h
    | cons e es => rfl
  simp only [Document.declaration, Component.declaration, Component.members, Recorded.result_bind]
  rw [hpresent, optional_error (by simp [h]; rfl)]
  rfl

/-- The declaration of a document that has something wrong fails with the first of it. -/
theorem Document.IsRead.declaration_error (h : d.IsRead) {e : GenerationError} (hflaw : d.Flaw e) :
    d.declaration.result = .error (.generation e) := by
  cases hflaw with
  | @prop before after name p s hprops hbefore hkind hwritten =>
    have hplain : ∀ e ∈ before, e.2.IsPlain written.limited := by
      intro e he
      have hmem : e ∈ d.component.props := hprops ▸ List.mem_append_left _ he
      exact ⟨hbefore e he, (h.definitions e hmem).default⟩
    refine Document.declaration_of_descriptors ?_
    rw [hprops]
    exact descriptors_error hplain hkind (by rw [PropDefinition.unsupported_str, hwritten]; rfl)
  | @dependency before after k hprops hdependencies hbefore hname =>
    obtain ⟨n, hn, hoption⟩ := (h.isPlain hprops).propsOption
    obtain ⟨ns, hns, -⟩ := optional_ok (!d.component.props.isEmpty) _ hn hoption
    have hcheck : Component.usedComponents d.dependencies =
        .error (.generation (.badDependency k)) := by
      rw [Component.usedComponents, hdependencies, checkDependencies_error hbefore hname]
      rfl
    have hpresent : (!d.dependencies.isEmpty) = true := by
      rw [hdependencies]
      cases before <;> rfl
    simp only [Document.declaration, Component.declaration, Component.members,
      Recorded.result_bind]
    rw [hns, Result.ok_bind, hpresent, optional_error (by simp [hcheck]; rfl)]
    rfl

end

end Componentry
