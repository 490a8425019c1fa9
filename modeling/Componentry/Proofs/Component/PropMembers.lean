import Componentry.Proofs.Component.Flawed
import Componentry.Proofs.Component.Listed

/-!
# Members for props

The object for the props of a component has a member for each definition, in order, which depends on
that definition alone: the bare type that values are checked against, or an object that says more. A
type that is not known is the only reason why there is no such object. The failure reports it with
the definition as JSON, unless a number in there has too many digits.
-/

namespace Componentry

open Component (option)

namespace PropDefinition

/-- The tags that definitions may have, each with the type that values are checked against. -/
def runtimeTypes : List (String × String) :=
  [("string", "String"), ("number", "Number"), ("boolean", "Boolean"), ("array", "Array"),
    ("object", "Object"), ("func", "Function")]

/-- The object for definitions that are given under the names of props. -/
def propsObject (definitions : Entries Value) : Result Node := do
  let props ← definitions.readEach ofValue
  (Value.map (← descriptors props)).objectLiteral

/-- All numbers in the definition as JSON can be written. -/
def HasShortNumbers (d : PropDefinition) : Prop :=
  ∀ i, Spot.value (.int i) ∈ (Value.map d.entries).spots → Text.IsShort i

/-- The failure for a prop of no known type: a report that ends with the definition as JSON, or a
fault if a number in there cannot be written. -/
structure RefusedWith (d : PropDefinition) (name : Value) (f : Failure) : Prop where
  reported : d.HasShortNumbers → ∃ shown s front, name.shown = some shown ∧
    Json.writeLine (.map d.entries) = .ok s ∧
    f = .generation (.unsupportedProp name (.map d.entries) shown s) ∧
    f.message? = some (front ++ s)
  unreported : ¬ d.HasShortNumbers → f = .fault .malformed

end PropDefinition

namespace Entries

/-- A definition has one of the known tags. -/
def HasTag (es : Entries Value) (tag type : String) : Prop :=
  es.get? "type" = some (.str tag) ∧ (tag, type) ∈ PropDefinition.runtimeTypes

def isRequired (es : Entries Value) : Bool := ((es.get? "isRequired").getD (.bool false)).truthy

/-- What a prop is declared by: the bare type if the definition says no more, and else an object of
what it says. A default is taken from the literal of its value. -/
structure DeclaredBy (es : Entries Value) (tag type : String) (n : Node) : Prop where
  bare : n = .identifier (.str type) ↔ es.get? "defaultValue" = none ∧ es.isRequired = false
  full : n ≠ .identifier (.str type) → ∃ required default,
    n = .objectExpression (required ++ option "type" (.identifier (.str type)) :: default) ∧
    required =
      (if es.isRequired then [option "required" (.booleanLiteral (.bool true))] else []) ∧
    (es.get? "defaultValue" = none → default = []) ∧
    ∀ v ∈ es.get? "defaultValue", ∃ m, v.literal = .ok m ∧ default =
      [option "default" (if tag = "array" ∨ tag = "object" then .arrowFunction [] m else m)]

end Entries

/-- A property under the name of a prop that its definition, whose tag is known, declares. -/
def IsDeclaredMember (e : Value × Value) (m : Node) : Prop :=
  ∃ (k : String) (es : Entries Value) (tag type : String) (n : Node),
    e = (.str k, .map es) ∧ es.HasTag tag type ∧
    m = .objectProperty (.key k) n (.bool false) ∧ es.DeclaredBy tag type n

section

variable {es : Entries Value} {d : PropDefinition} {kind : PropKind} {name v : Value} {n : Node}
  {tag type : String}

theorem PropDefinition.kind?_eq_some : d.kind? = some kind ↔ d.type = .str kind.tag := by
  constructor
  · intro h
    rw [kind?, PropKind.ofTag?] at h
    have htext := List.find?_some h
    exact (isText_iff _ _).mp htext
  · intro h
    rw [kind?, h]
    cases kind <;> rfl

theorem runtimeTypes_eq :
    PropDefinition.runtimeTypes = PropKind.all.map fun kind => (kind.tag, kind.runtimeType) := rfl

theorem PropKind.mem_all (kind : PropKind) : kind ∈ all := by cases kind <;> decide

theorem Entries.hasTag_iff (hd : PropDefinition.ofValue (.map es) = .ok d) :
    es.HasTag tag type ↔
      ∃ kind, d.kind? = some kind ∧ kind.tag = tag ∧ kind.runtimeType = type := by
  rw [PropDefinition.ofValue_map] at hd
  cases hd
  simp only [PropDefinition.kind?_eq_some]
  constructor
  · rintro ⟨htag, hmem⟩
    rw [runtimeTypes_eq] at hmem
    obtain ⟨kind, -, heq⟩ := List.mem_map.mp hmem
    cases heq
    exact ⟨kind, by rw [htag]; rfl, rfl, rfl⟩
  · rintro ⟨kind, htag, rfl, rfl⟩
    refine ⟨?_, runtimeTypes_eq ▸ List.mem_map_of_mem kind.mem_all⟩
    cases hget : es.get? "type" with
    | none => rw [hget] at htag; cases htag
    | some v => rw [hget] at htag; exact congrArg some htag

theorem PropKind.byReference_iff : kind.byReference = true ↔
    kind.tag = "array" ∨ kind.tag = "object" := by
  cases kind <;> decide

/-- A default of a kind that is shared by reference is made by a function. -/
theorem PropDefinition.embeddedDefault_literal {w : Value}
    (hw : embeddedDefault kind v = .ok w) (hn : w.literal = .ok n) :
    ∃ m, v.literal = .ok m ∧
      n = if kind.tag = "array" ∨ kind.tag = "object" then .arrowFunction [] m else m := by
  rw [embeddedDefault] at hw
  split_ifs at hw with hkind
  · obtain ⟨m, hm, hw⟩ := Result.bind_eq_ok.mp hw
    cases hw
    cases hn
    exact ⟨m, hm, (if_pos (PropKind.byReference_iff.mp hkind)).symm⟩
  · cases hw
    exact ⟨n, hn, (if_neg (mt PropKind.byReference_iff.mpr hkind)).symm⟩

/-- The members of a declaration that says more than the bare type. -/
def PropDefinition.fullEntries (d : PropDefinition) (kind : PropKind) (default : Entries Value) :
    Entries Value :=
  (if d.required then [(.str "required", .bool true)] else []) ++
    (.str "type", .node (.identifier (.str kind.runtimeType))) :: default

theorem PropDefinition.descriptor_eq_ok (hkind : d.kind? = some kind)
    (hv : d.descriptor name = .ok v) : ∃ default,
      v = (if d.required || d.default.isSome then .map (d.fullEntries kind default)
        else .node (.identifier (.str kind.runtimeType))) ∧
      (d.default = none → default = []) ∧
      ∀ w ∈ d.default, ∃ u, embeddedDefault kind w = .ok u ∧ default = [(.str "default", u)] := by
  cases hd : d.default with
  | none =>
    refine ⟨[], ?_, fun _ => rfl, nofun⟩
    cases hr : d.required <;> simpa [descriptor, fullEntries, hkind, hd, hr, eq_comm] using hv
  | some w =>
    obtain ⟨u, hu, hv⟩ : ∃ u, embeddedDefault kind w = .ok u ∧
        v = .map (d.fullEntries kind [(.str "default", u)]) := by
      simp only [descriptor, hkind, hd] at hv
      obtain ⟨u, hu, hv⟩ := Result.bind_eq_ok.mp hv
      simp only [Option.isSome_some, Bool.or_true, if_true, Result.pure_eq, Result.ok_bind] at hv
      exact ⟨u, hu, (Except.ok.inj hv).symm⟩
    refine ⟨[(.str "default", u)], ?_, fun hnone => absurd hnone (Option.some_ne_none w),
      fun x hx => ?_⟩
    · rw [Option.isSome_some, Bool.or_true, if_pos rfl]
      exact hv
    · cases hx
      exact ⟨u, hu, rfl⟩

theorem literalMembers_cons_eq_ok {k : String} {es : Entries Value} {ms : List Node}
    (h : literalMembers ((.str k, v) :: es) = .ok ms) :
    ∃ n rest, v.literal = .ok n ∧ literalMembers es = .ok rest ∧
      ms = .objectProperty (.key k) n (.bool false) :: rest := by
  rw [literalMembers, Value.inserted_str, Result.ok_bind] at h
  obtain ⟨n, hn, h⟩ := Result.bind_eq_ok.mp h
  obtain ⟨rest, hrest, h⟩ := Result.bind_eq_ok.mp h
  exact ⟨n, rest, hn, hrest, (Except.ok.inj h).symm⟩

theorem PropDefinition.descriptor_declaredBy (hd : ofValue (.map es) = .ok d)
    (hkind : d.kind? = some kind) (hv : d.descriptor name = .ok v) (hn : v.literal = .ok n) :
    Entries.DeclaredBy es kind.tag kind.runtimeType n := by
  obtain ⟨default, rfl, hnone, hsome⟩ := descriptor_eq_ok hkind hv
  have hrequired : d.required = Entries.isRequired es := by cases hd; rfl
  have hgiven : d.default = Entries.get? es "defaultValue" := by cases hd; rfl
  rw [hrequired, hgiven] at hn
  rw [hgiven] at hnone hsome
  rw [fullEntries, hrequired] at hn
  by_cases hmore : (Entries.isRequired es || (Entries.get? es "defaultValue").isSome) = true
  · rw [if_pos hmore] at hn
    obtain ⟨ms, hms, hn⟩ := Result.bind_eq_ok.mp hn
    cases hn
    obtain ⟨required, rest, rfl, hreq, hrest⟩ :
        ∃ required rest, ms = required ++ rest ∧
          required = (if Entries.isRequired es then
            [option "required" (.booleanLiteral (.bool true))] else []) ∧
          literalMembers ((.str "type", .node (.identifier (.str kind.runtimeType))) :: default) =
            .ok rest := by
      split_ifs at hms ⊢
      · obtain ⟨m, rest, hm, hrest, rfl⟩ := literalMembers_cons_eq_ok hms
        cases hm
        exact ⟨_, rest, rfl, rfl, hrest⟩
      · exact ⟨[], ms, rfl, rfl, hms⟩
    obtain ⟨m, ds, hm, hds, rfl⟩ := literalMembers_cons_eq_ok hrest
    cases hm
    refine ⟨⟨nofun, fun ⟨hget, hflag⟩ => ?_⟩, fun _ =>
      ⟨required, ds, rfl, hreq, fun hget => ?_, fun w hw => ?_⟩⟩
    · rw [hget, hflag] at hmore
      cases hmore
    · rw [hnone hget] at hds
      exact (Except.ok.inj hds).symm
    · obtain ⟨u, hu, rfl⟩ := hsome w hw
      obtain ⟨p, none, hp, hnil, rfl⟩ := literalMembers_cons_eq_ok hds
      cases hnil
      obtain ⟨m, hm, rfl⟩ := embeddedDefault_literal hu hp
      exact ⟨m, hm, rfl⟩
  · rw [if_neg hmore] at hn
    cases hn
    simp only [Bool.or_eq_true, not_or, Bool.not_eq_true, Option.isSome_eq_false_iff,
      Option.isNone_iff_eq_none] at hmore
    exact ⟨⟨fun _ => hmore.symm, fun _ => rfl⟩, fun h => absurd rfl h⟩

/-- What a definition declares is determined by it. -/
theorem Entries.DeclaredBy.eq {n' : Node} (h : es.DeclaredBy tag type n)
    (h' : es.DeclaredBy tag type n') : n = n' := by
  by_cases hbare : es.get? "defaultValue" = none ∧ es.isRequired = false
  · rw [h.bare.mpr hbare, h'.bare.mpr hbare]
  · obtain ⟨required, default, rfl, rfl, hnone, hsome⟩ := h.full (mt h.bare.mp hbare)
    obtain ⟨_, default', rfl, rfl, hnone', hsome'⟩ := h'.full (mt h'.bare.mp hbare)
    have hdefault : default = default' := by
      cases hget : es.get? "defaultValue" with
      | none => rw [hnone hget, hnone' hget]
      | some v =>
        obtain ⟨m, hm, rfl⟩ := hsome v hget
        obtain ⟨m', hm', rfl⟩ := hsome' v hget
        rw [Except.ok.inj (hm.symm.trans hm')]
    rw [hdefault]

theorem IsDeclaredMember.eq {e : Value × Value} {m m' : Node} (h : IsDeclaredMember e m)
    (h' : IsDeclaredMember e m') : m = m' := by
  obtain ⟨k, es, tag, type, n, rfl, htag, rfl, hn⟩ := h
  obtain ⟨k', es', tag', type', n', heq, htag', rfl, hn'⟩ := h'
  cases heq
  obtain ⟨d, hd⟩ : ∃ d, PropDefinition.ofValue (.map es) = .ok d := ⟨_, rfl⟩
  obtain ⟨kind, hkind, rfl, rfl⟩ := (Entries.hasTag_iff hd).mp htag
  obtain ⟨kind', hkind', rfl, rfl⟩ := (Entries.hasTag_iff hd).mp htag'
  cases hkind.symm.trans hkind'
  rw [hn.eq hn']

end

/-- A definition whose tag is known. -/
def IsSupported (v : Value) : Prop :=
  ∃ (es : Entries Value) (tag type : String), v = .map es ∧ es.HasTag tag type

section

variable {defs : Entries Value} {props : Entries PropDefinition}

/-- A prop of no known type is refused. -/
theorem PropDefinition.IsRead.unsupported {d : PropDefinition} (h : d.IsRead written)
    (name : String) :
    ∃ f, d.unsupported (.str name) = .error f ∧ d.RefusedWith (.str name) f := by
  have hplain : (Value.map d.entries).IsPlain written := h.entries fun _ => trivial
  rw [unsupported_str]
  by_cases hshort : d.HasShortNumbers
  · obtain ⟨s, hs⟩ := Json.writeLine_eq_ok_iff.mpr fun p hp =>
      Option.eq_none_iff_forall_ne_some.mpr fun e he => by
        obtain ⟨-, i, rfl, -, hlong⟩ := hplain.fault hp he
        exact hlong (hshort i hp)
    rw [hs]
    exact ⟨_, rfl, fun _ => ⟨name, s, _, rfl, hs, rfl, rfl⟩, fun hlong => absurd hshort hlong⟩
  · obtain ⟨i, hi⟩ := not_forall.mp hshort
    obtain ⟨hmem, hlong⟩ := Classical.not_imp.mp hi
    have hfault : (Spot.value (.int i)).fault? .line = some .malformed := if_neg hlong
    obtain ⟨e, he⟩ : ∃ e, (Value.map d.entries).spots.findSome? (Spot.fault? .line) = some e :=
      Option.isSome_iff_exists.mp (List.findSome?_isSome_iff.mpr
        ⟨_, hmem, Option.isSome_iff_exists.mpr ⟨_, hfault⟩⟩)
    obtain ⟨p, hp, hpe⟩ := List.exists_of_findSome?_eq_some he
    obtain rfl := (hplain.fault hp hpe).1
    rw [Json.writeLine_eq_error_iff.mpr he]
    exact ⟨_, rfl, fun h => absurd h hshort, fun _ => rfl⟩

theorem isSupported_iff {v : Value} {d : PropDefinition} (hd : PropDefinition.ofValue v = .ok d) :
    IsSupported v ↔ ∃ kind, d.kind? = some kind := by
  constructor
  · rintro ⟨es, tag, type, rfl, htag⟩
    obtain ⟨kind, hkind, -⟩ := (Entries.hasTag_iff hd).mp htag
    exact ⟨kind, hkind⟩
  · rintro ⟨kind, hkind⟩
    obtain ⟨es, hes, -⟩ := Result.bind_eq_ok.mp hd
    cases v with
    | map fs => exact ⟨fs, _, _, rfl, (Entries.hasTag_iff hd).mpr ⟨kind, hkind, rfl, rfl⟩⟩
    | _ => cases hes

theorem readEach_definitions (h : (Value.map defs).IsPlain written)
    (hmaps : ∀ e ∈ defs, e.2.IsMap) :
    ∃ props, defs.readEach PropDefinition.ofValue = .ok props ∧
      List.Forall₂ (ReadAs PropDefinition.ofValue) defs props ∧
      ∀ p ∈ props, p.2.IsRead written := by
  have hread : ∀ e ∈ defs, ∃ d, PropDefinition.ofValue e.2 = .ok d ∧ d.IsRead written :=
    fun e he => PropDefinition.isRead (hmaps e he) (h.entry he)
  obtain ⟨props, hprops, hforall⟩ := readEach_ok fun e he => (hread e he).imp fun _ hd => hd.1
  refine ⟨props, hprops, hforall, fun p hp => ?_⟩
  obtain ⟨e, he, -, heq⟩ := exists_of_forall₂ hforall p hp
  obtain ⟨d, hd, hisRead⟩ := hread e he
  exact Except.ok.inj (heq.symm.trans hd) ▸ hisRead

theorem isPlain_of_isSupported (h : List.Forall₂ (ReadAs PropDefinition.ofValue) defs props)
    (hread : ∀ p ∈ props, p.2.IsRead written) (hsupported : ∀ e ∈ defs, IsSupported e.2) :
    ∀ p ∈ props, p.2.IsPlain written := by
  intro p hp
  obtain ⟨e, he, -, heq⟩ := exists_of_forall₂ h p hp
  exact ⟨(isSupported_iff heq).mp (hsupported e he), (hread p hp).default⟩

theorem forall₂_isDeclaredMember (hmaps : ∀ e ∈ defs, e.2.IsMap)
    (hkeys : ∀ e ∈ defs, ∃ k, e.1 = .str k)
    (h : List.Forall₂ (ReadAs PropDefinition.ofValue) defs props) {ms : List Node}
    (hms : List.Forall₂ IsPropMember props ms) :
    List.Forall₂ (fun e m => IsKeyed e.1 m ∧ IsDeclaredMember e m) defs ms := by
  induction h generalizing ms with
  | nil =>
    cases hms
    exact .nil
  | @cons e p defs props hep _ ih =>
    obtain ⟨hmap, hmaps⟩ := List.forall_mem_cons.mp hmaps
    obtain ⟨hkey, hkeys⟩ := List.forall_mem_cons.mp hkeys
    cases hms with
    | cons hm hms =>
      refine .cons ?_ (ih hmaps hkeys hms)
      obtain ⟨name, v⟩ := e
      obtain ⟨es, rfl, -⟩ : v.IsMap := hmap
      obtain ⟨k, rfl⟩ : ∃ k, name = .str k := hkey
      obtain ⟨hname, hd⟩ : Value.str k = p.1 ∧ PropDefinition.ofValue (.map es) = .ok p.2 := hep
      obtain ⟨w, hw, l, n, hl, hn, rfl⟩ := hm
      obtain ⟨kind, hkind⟩ := kind_of_descriptor hw
      rw [← hname] at hl
      cases hl
      exact ⟨isKeyed_property k n _, k, es, _, _, n, rfl,
        (Entries.hasTag_iff hd).mpr ⟨kind, hkind, rfl, rfl⟩, rfl,
        PropDefinition.descriptor_declaredBy hd hkind hw hn⟩

theorem propsObject_of_supported (h : (Value.map defs).IsPlain written)
    (hmaps : ∀ e ∈ defs, e.2.IsMap) (hsupported : ∀ e ∈ defs, IsSupported e.2) :
    ∃ ms, PropDefinition.propsObject defs = .ok (.objectExpression ms) ∧
      Lists IsDeclaredMember defs ms := by
  obtain ⟨props, hprops, hforall, hread⟩ := readEach_definitions h hmaps
  obtain ⟨es, hes, hkeys, hassembled⟩ :=
    descriptors_assembled (isPlain_of_isSupported hforall hread hsupported)
  have hnamed : Entries.IsPlain written es :=
    h.keys.of_keys (hkeys.trans (keys_eq_of_readAs hforall))
  obtain ⟨ns, hns, -⟩ := literalMembers_ok (P := fun _ _ => True) hnamed.inserted
    fun e he => (hassembled e he).imp fun _ hn => ⟨hn.1, trivial⟩
  refine ⟨_, ?_, h.keys.lists (forall₂_isDeclaredMember hmaps
    (fun e he => (h.keys.key he).imp fun _ hk => hk.1) hforall
    (forall₂_descriptors hes (forall₂_literalMembers hns)))⟩
  rw [PropDefinition.propsObject, hprops, Result.ok_bind, hes, Result.ok_bind,
    Value.objectLiteral, Value.entries, Result.ok_bind, hns]
  rfl

theorem forall₂_append_left {α β : Type} {R : α → β → Prop} {as as' : List α} {bs : List β}
    (h : List.Forall₂ R (as ++ as') bs) :
    ∃ cs ds, bs = cs ++ ds ∧ List.Forall₂ R as cs ∧ List.Forall₂ R as' ds :=
  ⟨bs.take as.length, bs.drop as.length, (List.take_append_drop _ _).symm,
    (List.forall₂_take_append bs as as' h.flip).flip,
    (List.forall₂_drop_append bs as as' h.flip).flip⟩

theorem propsObject_of_unsupported {before after : Entries Value} {e : Value × Value}
    (h : (Value.map (before ++ e :: after)).IsPlain written)
    (hmaps : ∀ f ∈ before ++ e :: after, f.2.IsMap)
    (hbefore : ∀ f ∈ before, IsSupported f.2) (he : ¬ IsSupported e.2) :
    ∃ d f, PropDefinition.ofValue e.2 = .ok d ∧ d.RefusedWith e.1 f ∧
      PropDefinition.propsObject (before ++ e :: after) = .error f := by
  obtain ⟨props, hprops, hforall, hread⟩ := readEach_definitions h hmaps
  obtain ⟨ps, rest, rfl, hps, hrest⟩ := forall₂_append_left hforall
  obtain ⟨k, hk, -⟩ := h.keys.key (List.mem_append_cons_self : e ∈ before ++ e :: after)
  cases hrest with
  | @cons _ p _ qs hep hqs =>
    obtain ⟨hname, hd⟩ := hep
    obtain ⟨f, hf, hrefused⟩ := (hread p List.mem_append_cons_self).unsupported k
    have hplain := isPlain_of_isSupported hps
      (fun q hq => hread q (List.mem_append_left _ hq)) hbefore
    have hkind : p.2.kind? = none := Option.eq_none_iff_forall_ne_some.mpr fun kind hkind =>
      he ((isSupported_iff hd).mpr ⟨kind, hkind⟩)
    have hdescriptors : PropDefinition.descriptors (ps ++ p :: qs) = .error f := by
      rw [show p = (.str k, p.2) by rw [← hk, hname]]
      exact descriptors_error hplain hkind hf
    refine ⟨p.2, f, hd, hk ▸ hrefused, ?_⟩
    rw [PropDefinition.propsObject, hprops, Result.ok_bind, hdescriptors]
    rfl

theorem lists_of_propsObject (h : (Value.map defs).IsPlain written)
    (hmaps : ∀ e ∈ defs, e.2.IsMap) {n : Node} (hn : PropDefinition.propsObject defs = .ok n) :
    ∃ ms, n = .objectExpression ms ∧ Lists IsDeclaredMember defs ms := by
  rcases forall_or_exists_first (fun e : Value × Value => IsSupported e.2) defs with
    hall | ⟨before, e, after, rfl, hbefore, he⟩
  · obtain ⟨ms, hms, hlists⟩ := propsObject_of_supported h hmaps hall
    exact ⟨ms, Except.ok.inj (hn.symm.trans hms), hlists⟩
  · obtain ⟨d, f, -, -, herror⟩ := propsObject_of_unsupported h hmaps hbefore he
    cases hn.symm.trans herror

end

/-- A definition of no known type whose default has too many digits. -/
def datedDefinition : Entries Value :=
  [(.str "type", .str "date"), (.str "defaultValue", .int Text.tooLong)]

theorem propsObject_tooLong :
    PropDefinition.propsObject [(.str "when", .map datedDefinition)] = Result.fault .malformed := by
  have hread : PropDefinition.ofValue (.map datedDefinition) =
      .ok ⟨.str "date", some (.int Text.tooLong), false⟩ := rfl
  have hdefinition : (Value.map datedDefinition).IsPlain written :=
    .map ⟨["type", "defaultValue"], rfl, by decide, fun _ _ => trivial⟩
      (by simpa [datedDefinition] using ⟨.str _, .int (.inl ⟨_, rfl⟩)⟩)
  have hplain : (Value.map ([] ++ (.str "when", .map datedDefinition) :: [])).IsPlain written :=
    .map ⟨["when"], rfl, by decide, fun _ _ => trivial⟩ (by simpa using hdefinition)
  have hunknown : ¬ IsSupported (.map datedDefinition) := by
    rw [isSupported_iff hread]
    rintro ⟨kind, hkind⟩
    cases hkind
  obtain ⟨d, f, hd, hrefused, herror⟩ := propsObject_of_unsupported hplain
    (List.forall_mem_singleton.mpr ⟨_, rfl, fun _ _ => trivial⟩) nofun hunknown
  obtain rfl := Except.ok.inj (hread.symm.trans hd)
  have hlong := hrefused.unreported fun hshort => Text.not_isShort_tooLong
    (hshort _ (by simp [PropDefinition.entries, Value.spots, spotsOfEntries]))
  exact herror.trans (congrArg Except.error hlong)

end Componentry
