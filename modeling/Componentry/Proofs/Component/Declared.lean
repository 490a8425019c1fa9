import Componentry.Component.Options
import Componentry.Proofs.Component.Plain
import Componentry.Proofs.Component.Reported

/-!
# Plain components have declarations

Every plain component has a declaration, whatever it depends on and however its events are handled,
as long as each dependency can be referred to. The declaration consists of the nodes that
`Assembled` allows.
-/

namespace Componentry

open Script (Vocabulary Assembled)

variable {voc : Vocabulary}

structure PropDefinition.IsPlain (voc : Vocabulary) (d : PropDefinition) : Prop where
  kind : ∃ kind, d.kind? = some kind
  default : ∀ v ∈ d.default, v.IsPlain voc

structure Component.IsPlain (voc : Vocabulary) (c : Component) : Prop where
  name : ∃ s, c.name = .str s
  props : c.props.IsPlain voc
  definitions : ∀ e ∈ c.props, e.2.IsPlain voc

/-- A statement whose target is a text, or for a call may be missing, and whose values are plain. -/
inductive Statement.IsPlain (voc : Vocabulary) : Statement → Prop
  | stateChange {k : String} {v : Value} (hk : voc.name k) (hv : v.IsPlain voc) :
    IsPlain voc (.stateChange (.str k) v)
  | propCall {p : Value} {args : List Value} (hp : p = .null ∨ ∃ s, p = .str s)
    (hargs : ∀ v ∈ args, v.IsPlain voc) : IsPlain voc (.propCall p args)

structure Handlers.IsPlain (voc : Vocabulary) (handlers : Handlers) : Prop where
  events : Entries.IsPlain voc handlers
  statements : ∀ e ∈ handlers, ∀ s ∈ e.2, s.IsPlain voc

theorem PropDefinition.embeddedDefault_assembled (kind : PropKind) {v : Value}
    (hv : v.IsPlain voc) :
    ∃ w, embeddedDefault kind v = .ok w ∧
      ∃ n, w.literal = .ok n ∧ Assembled voc .expression n := by
  obtain ⟨n, hn, hassembled⟩ := hv.literal
  cases hk : kind.byReference with
  | true => exact ⟨.node (.arrowFunction [] n), by simp [embeddedDefault, hk, hn], _, rfl,
      .fresh hassembled⟩
  | false => exact ⟨v, by simp [embeddedDefault, hk], n, hn, hassembled⟩

theorem optionsLiteral {es : Entries Value} (ks : List String) (hkeys : es.keys = ks.map .str)
    (hnodup : ks.Nodup) (hsub : ∀ k ∈ ks, k ∈ Script.optionNames)
    (h : ∀ e ∈ es, ∃ n, e.2.literal = .ok n ∧ Assembled voc .expression n) :
    ∃ n, (Value.map es).literal = .ok n ∧ Assembled voc .expression n := by
  have hes : es.IsPlain voc := ⟨ks, hkeys, hnodup, fun k hk => voc.options k (hsub k hk)⟩
  obtain ⟨ms, hms, hassembled⟩ := literalMembers_assembled hes h
  exact ⟨_, by simp [Value.literal, hms], hassembled⟩

theorem PropDefinition.IsPlain.descriptor {d : PropDefinition} (h : d.IsPlain voc) (name : Value) :
    ∃ v, d.descriptor name = .ok v ∧
      ∃ n, v.literal = .ok n ∧ Assembled voc .expression n := by
  obtain ⟨⟨kind, hkind⟩, hdefault⟩ := h
  have htype : ∃ n, (Value.node (.identifier (.str kind.runtimeType))).literal = .ok n ∧
      Assembled voc .expression n := ⟨_, rfl, .constructor kind⟩
  have hrequired : ∃ n, (Value.bool true).literal = .ok n ∧ Assembled voc .expression n :=
    ⟨_, rfl, .bool true⟩
  cases hd : d.default with
  | none =>
    cases hr : d.required with
    | false => exact ⟨_, by simp [PropDefinition.descriptor, hkind, hd, hr], htype⟩
    | true =>
      refine ⟨.map [(.str "required", .bool true), (.str "type", _)],
        by simp [PropDefinition.descriptor, hkind, hd, hr]; rfl,
        optionsLiteral ["required", "type"] rfl (by decide) (by decide) ?_⟩
      simpa using ⟨hrequired, htype⟩
  | some v =>
    obtain ⟨w, hw, hwn⟩ := embeddedDefault_assembled kind (hdefault v hd)
    cases hr : d.required with
    | false =>
      refine ⟨.map [(.str "type", _), (.str "default", w)],
        by simp [PropDefinition.descriptor, hkind, hd, hr, hw]; rfl,
        optionsLiteral ["type", "default"] rfl (by decide) (by decide) ?_⟩
      simpa using ⟨htype, hwn⟩
    | true =>
      refine ⟨.map [(.str "required", .bool true), (.str "type", _), (.str "default", w)],
        by simp [PropDefinition.descriptor, hkind, hd, hr, hw]; rfl,
        optionsLiteral ["required", "type", "default"] rfl (by decide) (by decide) ?_⟩
      simpa using ⟨hrequired, htype, hwn⟩

theorem descriptors_assembled {props : Entries PropDefinition} (h : ∀ e ∈ props, e.2.IsPlain voc) :
    ∃ es, PropDefinition.descriptors props = .ok es ∧ es.keys = props.keys ∧
      ∀ e ∈ es, ∃ n, e.2.literal = .ok n ∧ Assembled voc .expression n := by
  induction props with
  | nil => exact ⟨[], rfl, rfl, fun _ he => nomatch he⟩
  | cons p props ih =>
    obtain ⟨v, hv, hn⟩ := (h p List.mem_cons_self).descriptor p.1
    obtain ⟨es, hes, hkeys, hns⟩ := ih fun q hq => h q (List.mem_cons_of_mem p hq)
    refine ⟨(p.1, v) :: es, by simp [PropDefinition.descriptors, hv, hes], ?_, ?_⟩
    · rw [Entries.keys, List.map_cons, ← Entries.keys, hkeys]
      rfl
    · exact List.forall_mem_cons.mpr ⟨hn, hns⟩

theorem Entries.IsPlain.of_keys {α β : Type} {es : Entries α} {fs : Entries β}
    (h : es.IsPlain voc) (hkeys : fs.keys = es.keys) : fs.IsPlain voc := by
  unfold Entries.IsPlain
  rw [hkeys]
  exact h

theorem same_str (v : Value) (s : String) : v.same (.str s) = v.isText s := by
  cases v <;> rw [Value.same] <;> first | rfl | exact nofun

theorem isNone_find? (props : Entries PropDefinition) (name : String) :
    (props.find? (.str name)).isNone = !props.keys.any (·.isText name) := by
  induction props with
  | nil => rfl
  | cons p props ih =>
    rw [Entries.find?, Entries.keys, List.map_cons, List.any_cons, same_str]
    cases hp : p.1.isText name with
    | true => rfl
    | false => exact ih

namespace Statement

variable {target value : Value} {n : Node}

theorem assignment_toggle (h : isToggle value = true) :
    assignment target value = .ok (.expressionStatement (.assignmentExpression (.str "=")
      (.thisMember target) (.unaryExpression (.str "!") (.thisMember target)))) := by
  simp [assignment, h]

theorem assignment_literal (h : isToggle value = false) (hn : value.literal = .ok n) :
    assignment target value = .ok (.expressionStatement
      (.assignmentExpression (.str "=") (.thisMember target) n)) := by
  simp [assignment, h, hn]

theorem emission_ok {args : List Value} {ns : List Node} (h : literalItems args = .ok ns)
    (prop : Value) : emission prop args = .ok (.expressionStatement
      (.callExpression (.thisMember (.str emitMethod)) (.stringLiteral prop :: ns))) := by
  simp [emission, h]

variable (props : Entries PropDefinition) (location : String) (args : List Value)

theorem compile_stateChange {s : Node} (h : assignment target value = .ok s) :
    ((stateChange target value).compile props location).result = .ok (some s) := by
  simp [compile, h]

theorem compile_missing : ((propCall .null args).compile props location).result = .ok none := by
  simp [compile, Value.truthy]

/-- A call is compiled just if it names a prop that is defined. -/
theorem compile_propCall (name : String) :
    ((propCall (.str name) args).compile props location).result =
      if name ≠ "" && props.keys.any (·.isText name) then some <$> emission (.str name) args
      else .ok none := by
  have hkey : (Value.str name).canBeKey = true := rfl
  have hfind := isNone_find? props name
  by_cases hname : name = ""
  · subst hname
    simp [compile, Value.truthy]
  · have htruthy : (Value.str name).truthy = true := by simp [Value.truthy, hname]
    cases hany : props.keys.any (·.isText name) with
    | false => simp [compile, htruthy, hkey, hfind, hany]
    | true =>
      simp [compile, htruthy, hkey, hfind, hany, hname]
      rfl

end Statement

theorem Statement.IsPlain.compile {s : Statement} (h : s.IsPlain voc)
    (props : Entries PropDefinition) (location : String) :
    ∃ o, (s.compile props location).result = .ok o ∧ ∀ n ∈ o, Assembled voc .statement n := by
  cases h with
  | @stateChange k v hk hv =>
    have hright : ∃ n, assignment (.str k) v = .ok (.expressionStatement
        (.assignmentExpression (.str "=") (.thisMember (.str k)) n)) ∧
        Assembled voc .expression n := by
      cases htoggle : isToggle v with
      | true => exact ⟨_, assignment_toggle htoggle, .toggled hk⟩
      | false =>
        obtain ⟨n, hn, hassembled⟩ := hv.literal
        exact ⟨n, assignment_literal htoggle hn, hassembled⟩
    obtain ⟨n, hn, hassembled⟩ := hright
    refine ⟨_, compile_stateChange props location hn, ?_⟩
    intro m hm
    cases hm
    exact .assignment hk hassembled
  | @propCall p args hp hargs =>
    rcases hp with rfl | ⟨name, rfl⟩
    · exact ⟨none, compile_missing props location args, nofun⟩
    obtain ⟨ns, hns, hassembled⟩ := literalItems_assembled fun v hv => (hargs v hv).literal
    rw [compile_propCall, emission_ok hns]
    split_ifs
    · refine ⟨_, rfl, ?_⟩
      intro n hn
      cases hn
      exact .emission (List.forall_mem_cons.mpr ⟨.text name, hassembled⟩)
    · exact ⟨none, rfl, nofun⟩

theorem compileBody_assembled {statements : List Statement} (h : ∀ s ∈ statements, s.IsPlain voc)
    (props : Entries PropDefinition) (event : String) (index : Nat) :
    ∃ body, (Handlers.compileBody props (.str event) index statements).result = .ok body ∧
      ∀ n ∈ body, Assembled voc .statement n := by
  induction statements generalizing index with
  | nil => exact ⟨[], rfl, fun _ hn => nomatch hn⟩
  | cons s statements ih =>
    obtain ⟨o, ho, hassembled⟩ :=
      (h s List.mem_cons_self).compile props (Handlers.place event index)
    obtain ⟨body, hbody, hrest⟩ := ih (fun t ht => h t (List.mem_cons_of_mem s ht)) (index + 1)
    refine ⟨o.toList ++ body, by simp [Handlers.compileBody, ho, hbody], fun n hn => ?_⟩
    rcases List.mem_append.mp hn with hn | hn
    · exact hassembled n (by simpa using hn)
    · exact hrest n hn

theorem Handlers.IsPlain.compile {handlers : Handlers} (h : Handlers.IsPlain voc handlers)
    (props : Entries PropDefinition) :
    ∃ bodies, (handlers.compile props).result = .ok bodies ∧ bodies.keys = handlers.keys ∧
      ∀ e ∈ bodies, ∀ n ∈ e.2, Assembled voc .statement n := by
  induction handlers with
  | nil => exact ⟨[], rfl, rfl, fun _ he => nomatch he⟩
  | cons e handlers ih =>
    obtain ⟨hevents, k, hk, -, -⟩ := h.events.cons
    obtain ⟨he, hstatements⟩ := List.forall_mem_cons.mp h.statements
    obtain ⟨event, statements⟩ := e
    cases hk
    obtain ⟨body, hbody, hassembled⟩ := compileBody_assembled he props k 0
    obtain ⟨bodies, hbodies, hkeys, hrest⟩ := ih ⟨hevents, hstatements⟩
    refine ⟨(.str k, body) :: bodies, by simp [Handlers.compile, hbody, hbodies], ?_, ?_⟩
    · rw [Entries.keys, List.map_cons, ← Entries.keys, hkeys]
      rfl
    · exact List.forall_mem_cons.mpr ⟨hassembled, hrest⟩

/-- A member of an object that is not its prototype. -/
def IsOption (voc : Vocabulary) (n : Node) : Prop :=
  Assembled voc .member n ∧ Script.setsPrototype n = false

theorem object_assembled {ms : List Node} (h : ∀ m ∈ ms, IsOption voc m) :
    Assembled voc .expression (.objectExpression ms) := by
  refine .object (fun m hm => (h m hm).1) ?_
  rw [List.countP_eq_zero.mpr fun m hm => by rw [(h m hm).2]; exact Bool.false_ne_true]
  omega

theorem isOption_option {name : String} (hname : name ∈ Script.optionNames) {n : Node}
    (hn : Assembled voc .expression n) : IsOption voc (Component.option name n) := by
  have hkey : ∀ k ∈ Script.optionNames, Naming.isIdentifierName k = true ∧
      k ≠ Script.prototypeName := by decide
  obtain ⟨hid, hne⟩ := hkey name hname
  have hoption : Component.option name n = .objectProperty (.key name) n (.bool false) := by
    rw [Component.option, Node.key, if_pos hid]
  refine ⟨hoption ▸ .property (voc.options name hname) hn, ?_⟩
  simp [Component.option, Script.setsPrototype, Script.memberName?, hne]

theorem usedComponents_assembled {names : List Value}
    (h : ∀ d ∈ names, ∃ k, d = .str k ∧ Naming.isReference k = true ∧ voc.component k) :
    ∃ n, Component.usedComponents names = .ok n ∧ Assembled voc .expression n := by
  have hcheck : Component.checkDependencies names = .ok () := by
    induction names with
    | nil => rfl
    | cons d names ih =>
      obtain ⟨k, rfl, hk, -⟩ := h d List.mem_cons_self
      simp [Component.checkDependencies, Value.text, hk,
        ih fun e he => h e (List.mem_cons_of_mem _ he)]
  refine ⟨_, by simp [Component.usedComponents, hcheck]; rfl, object_assembled fun m hm => ?_⟩
  obtain ⟨d, hd, rfl⟩ := List.mem_map.mp hm
  obtain ⟨k, rfl, -, hk⟩ := h d hd
  exact ⟨.binding hk, rfl⟩

theorem dataMethod_assembled {data : Value} (h : data.IsPlain voc) {es : Entries Value}
    (hes : data = .map es) :
    ∃ n, Component.dataMethod data = .ok n ∧ IsOption voc n := by
  obtain ⟨n, hn, hassembled⟩ := h.literal
  subst hes
  simp only [Value.literal] at hn
  obtain ⟨ms, hms, hn⟩ := Result.bind_eq_ok.mp hn
  cases hn
  have hkey : Node.key "data" = .identifier (.str "data") := if_pos (by decide)
  refine ⟨_, by simp [Component.dataMethod, Value.objectLiteral, Value.entries, hms]; rfl, ?_, rfl⟩
  rw [← hkey]
  exact .method (voc.options _ (by decide)) (by simpa using .result hassembled)

theorem methods_assembled {bodies : Entries (List Node)} (hevents : bodies.IsPlain voc)
    (h : ∀ e ∈ bodies, ∀ n ∈ e.2, Assembled voc .statement n) :
    ∃ ms, Component.methods bodies = .ok ms ∧ ∀ m ∈ ms, IsOption voc m := by
  induction bodies with
  | nil => exact ⟨[], rfl, fun _ hm => nomatch hm⟩
  | cons e bodies ih =>
    obtain ⟨hrest, k, hk, hname, -⟩ := hevents.cons
    obtain ⟨ms, hms, hoptions⟩ := ih hrest fun f hf => h f (List.mem_cons_of_mem e hf)
    obtain ⟨event, body⟩ := e
    cases hk
    refine ⟨_, by simp [Component.methods, Component.method, Value.text, hms],
      List.forall_mem_cons.mpr ⟨⟨.method hname (h _ List.mem_cons_self), rfl⟩, hoptions⟩⟩

theorem optional_ok {P : Node → Prop} (present : Bool) (member : Recorded Node) {n : Node}
    (h : member.result = .ok n) (hn : P n) :
    ∃ ns, (Component.optional present member).result = .ok ns ∧ ∀ n ∈ ns, P n := by
  cases present with
  | true => exact ⟨[n], by simp [Component.optional, h], by simpa using hn⟩
  | false => exact ⟨[], by simp [Component.optional], nofun⟩

section

variable {c : Component} {dependencies : List Value} {handlers : Handlers}

theorem Component.IsPlain.propsOption (h : c.IsPlain voc) :
    ∃ n, (Recorded.lift do return Component.option "props" (.objectExpression
        (← literalMembers (← PropDefinition.descriptors c.props)))).result = .ok n ∧
      IsOption voc n := by
  obtain ⟨es, hes, hkeys, hliterals⟩ := descriptors_assembled h.definitions
  obtain ⟨ms, hms, hassembled⟩ := literalMembers_assembled (h.props.of_keys hkeys) hliterals
  exact ⟨_, by simp [hes, hms]; rfl, isOption_option (by decide) hassembled⟩

theorem Handlers.IsPlain.methodsOption (h : Handlers.IsPlain voc handlers)
    (props : Entries PropDefinition) :
    ∃ n, (do
        let bodies ← handlers.compile props
        return Component.option "methods"
          (.objectExpression (← Component.methods bodies))).result = .ok n ∧
      IsOption voc n := by
  obtain ⟨bodies, hbodies, hkeys, hstatements⟩ := h.compile props
  obtain ⟨ms, hms, hoptions⟩ := methods_assembled (h.events.of_keys hkeys) hstatements
  exact ⟨_, by simp [hbodies, hms]; rfl,
    isOption_option (by decide) (object_assembled hoptions)⟩

/-- A plain component that uses components it can refer to has a declaration, which begins with the
name of the component. -/
theorem Component.IsPlain.declaration (h : c.IsPlain voc)
    (hdependencies : ∀ d ∈ dependencies, ∃ k, d = .str k ∧ Naming.isReference k = true ∧
      voc.component k)
    {es : Entries Value} (hdata : (Value.map es).IsPlain voc)
    (hhandlers : Handlers.IsPlain voc handlers) :
    ∃ ms, (c.declaration dependencies (.map es) handlers).result = .ok (.exportDefault
        (.objectExpression (option "name" (.stringLiteral c.name) :: ms))) ∧
      Assembled voc .expression
        (.objectExpression (option "name" (.stringLiteral c.name) :: ms)) := by
  obtain ⟨name, hname⟩ := h.name
  have hnameOption : IsOption voc (option "name" (.stringLiteral c.name)) :=
    isOption_option (by decide) (hname ▸ .text name)
  obtain ⟨_, hprops, hpropsOption⟩ := h.propsOption
  obtain ⟨_, hused, hassembled⟩ := usedComponents_assembled hdependencies
  have husedOption : IsOption voc (option "components" _) := isOption_option (by decide) hassembled
  obtain ⟨_, hstate, hstateOption⟩ := dataMethod_assembled hdata rfl
  obtain ⟨_, hmethods, hmethodsOption⟩ := hhandlers.methodsOption c.props
  -- each option is left out where there is nothing to put into it
  obtain ⟨p, hp, hpOptions⟩ := optional_ok (!c.props.isEmpty) _ hprops hpropsOption
  obtain ⟨u, hu, huOptions⟩ := optional_ok (!dependencies.isEmpty)
    (.lift do return option "components" (← usedComponents dependencies)) (by simp [hused])
    husedOption
  obtain ⟨s, hs, hsOptions⟩ := optional_ok (Value.map es).truthy (.lift (dataMethod (.map es)))
    hstate hstateOption
  obtain ⟨m, hm, hmOptions⟩ := optional_ok (!handlers.isEmpty) _ hmethods hmethodsOption
  refine ⟨p ++ u ++ s ++ m, ?_, ?_⟩
  · simp only [Component.declaration, Component.members, Recorded.result_bind, hp, hu, hs, hm,
      Result.ok_bind, Recorded.result_pure]
  · apply object_assembled
    simp only [List.forall_mem_cons, List.forall_mem_append]
    exact ⟨hnameOption, ⟨⟨hpOptions, huOptions⟩, hsOptions⟩, hmOptions⟩

end

end Componentry
