import Componentry.Proofs.Component.Reported
import Componentry.Proofs.Component.Typed
import Componentry.Proofs.Value.Entries
import Mathlib.Data.List.ReduceOption

/-!
# What a declaration lists

The object that declares a component lists all that the component is described by: a section for
each kind of input that there is, and in it one member for each entry, in order. Looking an entry up
finds its own member, and looking anything else up finds nothing.
-/

namespace Componentry

/-- The member of an object has a key that holds the value. -/
def IsKeyed (k : Value) (m : Node) : Prop := ∃ key, m.memberKey = .ok key ∧ key.held? = some k

/-- The members of an object list entries: their keys are those of the entries, in order; what is
found under the key of an entry is made from that entry, and there is nothing under anything
else. -/
structure Lists {α : Type} (Made : Value × α → Node → Prop) (es : Entries α) (ms : List Node) :
    Prop where
  keys : Members.keys ms = .ok es.keys
  found : ∀ e ∈ es, ∃ m, Members.find? e.1 ms = .ok (some m) ∧ Made e m
  absent : ∀ w, w ∉ es.keys → Members.find? w ms = .ok none

namespace Members

variable {k : String} {m : Node}

theorem keys_cons {k : Value} (h : IsKeyed k m) {ms : List Node} {ks : List Value}
    (hms : keys ms = .ok ks) : keys (m :: ms) = .ok (k :: ks) := by
  obtain ⟨key, hkey, hheld⟩ := h
  simp [keys, hkey, hheld, hms]

theorem find?_cons_self (h : IsKeyed (.str k) m) (ms : List Node) :
    find? (.str k) (m :: ms) = .ok (some m) := by
  obtain ⟨key, hkey, hheld⟩ := h
  simp [find?, hkey, hheld, (str_same_iff k (.str k)).mpr rfl]

theorem find?_cons_of_ne (h : IsKeyed (.str k) m) {w : Value} (hne : w ≠ .str k) (ms : List Node) :
    find? w (m :: ms) = find? w ms := by
  obtain ⟨key, hkey, hheld⟩ := h
  simp [find?, hkey, hheld, mt (str_same_iff k w).mp hne]

end Members

section

variable {α : Type} {Made : Value × α → Node → Prop} {es : Entries α} {ms : List Node}

/-- Members that are made one from each entry list the entries, if equal keys are made the same
of. -/
theorem lists_of_forall₂ (hkeys : ∀ e ∈ es, ∃ k, e.1 = .str k)
    (h : List.Forall₂ (fun e m => IsKeyed e.1 m ∧ Made e m) es ms)
    (hsame : ∀ e ∈ es, ∀ f ∈ es, e.1 = f.1 → ∀ m, Made e m → Made f m) : Lists Made es ms := by
  induction h with
  | nil => exact ⟨rfl, nofun, fun _ _ => rfl⟩
  | @cons e m es ms hem _ ih =>
    obtain ⟨⟨k, hk⟩, hkeys⟩ := List.forall_mem_cons.mp hkeys
    obtain ⟨hkeyed, hmade⟩ := hem
    have hrest := ih hkeys fun f hf g hg =>
      hsame f (List.mem_cons_of_mem e hf) g (List.mem_cons_of_mem e hg)
    refine ⟨Members.keys_cons hkeyed hrest.keys, fun f hf => ?_, fun w hw => ?_⟩
    · rw [hk] at hkeyed
      by_cases heq : f.1 = .str k
      · rw [heq]
        exact ⟨m, Members.find?_cons_self hkeyed ms,
          hsame e List.mem_cons_self f hf (hk.trans heq.symm) m hmade⟩
      · rw [Members.find?_cons_of_ne hkeyed heq]
        have hmem : f ∈ es := by
          rcases List.mem_cons.mp hf with rfl | hf
          · exact absurd hk heq
          · exact hf
        exact hrest.found f hmem
    · obtain ⟨hne, hnot⟩ := List.ne_and_not_mem_of_not_mem_cons hw
      rw [hk] at hkeyed
      rw [Members.find?_cons_of_ne hkeyed fun heq => hne (heq.trans hk.symm)]
      exact hrest.absent w hnot

theorem Lists.find? {all : Entries Node} (h : Lists (fun e m => m = e.2) all ms) {k : Value}
    {n : Node} (hmem : (k, n) ∈ all) : Members.find? k ms = .ok (some n) := by
  obtain ⟨m, hm, rfl⟩ := h.found _ hmem
  exact hm

theorem Entries.IsPlain.eq_of_key (h : es.IsPlain written) :
    ∀ e ∈ es, ∀ f ∈ es, e.1 = f.1 → e = f := by
  obtain ⟨ks, hkeys, hnodup, -⟩ := h
  have hkeysNodup : (es.map Prod.fst).Nodup := by
    have heq : es.map Prod.fst = ks.map .str := hkeys
    rw [heq]
    exact hnodup.map fun _ _ hst => Value.str.inj hst
  exact fun e he f hf hef => List.inj_on_of_nodup_map hkeysNodup he hf hef

theorem Entries.IsPlain.lists (h : es.IsPlain written)
    (hms : List.Forall₂ (fun e m => IsKeyed e.1 m ∧ Made e m) es ms) : Lists Made es ms :=
  lists_of_forall₂ (fun _ he => (h.key he).imp fun _ hk => hk.1) hms
    fun _ he _ hf hef _ hmade => h.eq_of_key _ he _ hf hef ▸ hmade

end

/-- The property for an entry of a mapping. -/
def IsValueMember : Value × Value → Node → Prop := IsMemberFor fun v n => v.literal = .ok n

/-- The property for a prop, with the literal of what its definition comes to. -/
def IsPropMember (e : Value × PropDefinition) (m : Node) : Prop :=
  ∃ v, e.2.descriptor e.1 = .ok v ∧ IsValueMember (e.1, v) m

/-- The method for an event: its statements in order, without those that are left out. -/
def IsEventMember (props : Entries PropDefinition) (e : Value × List Statement) (m : Node) : Prop :=
  ∃ k compiled, e.1 = .str k ∧
    List.Forall₂ (fun x o => (x.compile props).result = .ok o)
      (Handlers.placedFrom e.1 0 e.2) compiled ∧
    m = .objectMethod (.key k) [] (.blockStatement compiled.reduceOption)

theorem isKeyed_property (k : String) (v : Node) (s : Value) :
    IsKeyed (.str k) (.objectProperty (.key k) v s) := by
  refine ⟨_, rfl, ?_⟩
  unfold Node.key
  split_ifs <;> rfl

theorem isKeyed_method (k : String) (ps : List Node) (b : Node) :
    IsKeyed (.str k) (.objectMethod (.key k) ps b) := by
  refine ⟨_, rfl, ?_⟩
  unfold Node.key
  split_ifs <;> rfl

theorem IsValueMember.isKeyed {e : Value × Value} {m : Node} (h : IsValueMember e m) {k : String}
    (hk : e.1 = .str k) : IsKeyed e.1 m := by
  obtain ⟨l, n, hl, -, rfl⟩ := h
  rw [hk] at hl ⊢
  cases hl
  exact isKeyed_property k n _

theorem forall₂_literalMembers {es : Entries Value} {ms : List Node}
    (h : literalMembers es = .ok ms) : List.Forall₂ IsValueMember es ms := by
  induction es generalizing ms with
  | nil =>
    cases h
    exact .nil
  | cons e es ih =>
    rw [literalMembers] at h
    obtain ⟨k, hk, h⟩ := Result.bind_eq_ok.mp h
    obtain ⟨n, hn, h⟩ := Result.bind_eq_ok.mp h
    obtain ⟨rest, hrest, h⟩ := Result.bind_eq_ok.mp h
    cases h
    exact .cons ⟨k, n, hk, hn, rfl⟩ (ih hrest)

theorem forall₂_descriptors {props : Entries PropDefinition} {es : Entries Value} {ms : List Node}
    (h : PropDefinition.descriptors props = .ok es) (hms : List.Forall₂ IsValueMember es ms) :
    List.Forall₂ IsPropMember props ms := by
  induction props generalizing es ms with
  | nil =>
    cases h
    cases hms
    exact .nil
  | cons p props ih =>
    rw [PropDefinition.descriptors] at h
    obtain ⟨v, hv, h⟩ := Result.bind_eq_ok.mp h
    obtain ⟨rest, hrest, h⟩ := Result.bind_eq_ok.mp h
    cases h
    cases hms with
    | cons hm hms => exact .cons ⟨v, hv, hm⟩ (ih hrest hms)

theorem forall₂_compileBody {props : Entries PropDefinition} {event : Value} {index : Nat}
    {statements : List Statement} {body : List Node}
    (h : (Handlers.compileBody props event index statements).result = .ok body) :
    ∃ compiled, List.Forall₂ (fun x o => (x.compile props).result = .ok o)
      (Handlers.placedFrom event index statements) compiled ∧ body = compiled.reduceOption := by
  induction statements generalizing index body with
  | nil =>
    cases h
    exact ⟨[], .nil, rfl⟩
  | cons s rest ih =>
    simp only [Handlers.compileBody_cons, Recorded.result_bind] at h
    obtain ⟨o, ho, h⟩ := Result.bind_eq_ok.mp h
    obtain ⟨body', hbody, h⟩ := Result.bind_eq_ok.mp h
    cases h
    obtain ⟨compiled, hcompiled, rfl⟩ := ih hbody
    refine ⟨o :: compiled, .cons ho hcompiled, ?_⟩
    cases o <;> rfl

theorem forall₂_methods {props : Entries PropDefinition} {handlers : Handlers}
    {bodies : Entries (List Node)} {ms : List Node}
    (h : (handlers.compile props).result = .ok bodies) (hms : Component.methods bodies = .ok ms) :
    List.Forall₂ (fun e m => IsKeyed e.1 m ∧ IsEventMember props e m) handlers ms := by
  induction handlers generalizing bodies ms with
  | nil =>
    cases h
    cases hms
    exact .nil
  | cons e handlers ih =>
    simp only [Handlers.compile, Recorded.result_bind] at h
    obtain ⟨body, hbody, h⟩ := Result.bind_eq_ok.mp h
    obtain ⟨bodies, hbodies, h⟩ := Result.bind_eq_ok.mp h
    cases h
    rw [Component.methods] at hms
    obtain ⟨m, hm, hms⟩ := Result.bind_eq_ok.mp hms
    obtain ⟨rest, hrest, hms⟩ := Result.bind_eq_ok.mp hms
    cases hms
    obtain ⟨k, hk, hm⟩ := Result.bind_eq_ok.mp hm
    cases hm
    obtain ⟨compiled, hcompiled, rfl⟩ := forall₂_compileBody hbody
    have hevent : e.1 = .str k := eq_str_of_text hk
    refine .cons ⟨?_, k, compiled, hevent, hcompiled, rfl⟩ (ih hbodies hrest)
    rw [hevent]
    exact isKeyed_method k [] _

/-- An event is listed even if all of its statements are left out. -/
theorem IsEventMember.eq_of_left_out {props : Entries PropDefinition}
    {e : Value × List Statement} {m : Node} (h : IsEventMember props e m)
    (hout : ∀ x ∈ Handlers.placedFrom e.1 0 e.2, (x.compile props).result = .ok none) :
    ∃ k, e.1 = .str k ∧ m = .objectMethod (.key k) [] (.blockStatement []) := by
  obtain ⟨k, compiled, hk, hcompiled, rfl⟩ := h
  refine ⟨k, hk, ?_⟩
  have hnone : ∀ o ∈ compiled, o = none := by
    intro o ho
    obtain ⟨x, hx, hresult⟩ := exists_of_forall₂ hcompiled o ho
    exact Except.ok.inj (hresult.symm.trans (hout x hx))
  rw [List.eq_replicate_of_mem hnone, List.reduceOption_replicate_none]

namespace Component

section

variable {present : Bool} {member : Recorded Node} {k : String}

/-- A section is listed under its key if it is there. -/
theorem optional_listed {P : Node → Prop} {ns : List Node}
    (h : (optional present member).result = .ok ns)
    (hmember : ∀ n, member.result = .ok n → IsKeyed (.str k) n ∧ P n) :
    ∃ es : Entries Node, es.keys = (if present then [.str k] else []) ∧
      List.Forall₂ (fun e m => IsKeyed e.1 m ∧ m = e.2) es ns ∧
      (present = true → ∃ n, P n ∧ (.str k, n) ∈ es) := by
  cases present with
  | false =>
    cases h
    exact ⟨[], rfl, .nil, nofun⟩
  | true =>
    simp only [optional, if_true, Recorded.result_bind] at h
    obtain ⟨n, hn, h⟩ := Result.bind_eq_ok.mp h
    cases h
    obtain ⟨hkeyed, hp⟩ := hmember n hn
    exact ⟨[(.str k, n)], rfl, .cons ⟨hkeyed, rfl⟩ .nil,
      fun _ => ⟨n, hp, List.mem_singleton.mpr rfl⟩⟩

end

/-- The names of the sections that there is something to put into. -/
def sections (c : Component) (dependencies : List Value) (data : Entries Value)
    (handlers : Handlers) : List String :=
  ([("name", true), ("props", !c.props.isEmpty), ("components", !dependencies.isEmpty),
    ("data", !data.isEmpty), ("methods", !handlers.isEmpty)].filter (·.2)).map (·.1)

theorem nodup_sections (c : Component) (dependencies : List Value) (data : Entries Value)
    (handlers : Handlers) : (c.sections dependencies data handlers).Nodup := by
  have hnodup : ["name", "props", "components", "data", "methods"].Nodup := by decide
  exact hnodup.sublist (List.filter_sublist.map _)

/-- What the object that declares a component lists: the name, and each kind of input that there is
some of. -/
structure ListsInputs (c : Component) (dependencies : List Value) (data : Entries Value)
    (handlers : Handlers) (options : List Node) : Prop where
  keys : Members.keys options = .ok ((c.sections dependencies data handlers).map .str)
  absent : ∀ w, w ∉ (c.sections dependencies data handlers).map .str →
    Members.find? w options = .ok none
  name : Members.find? (.str "name") options = .ok (some (option "name" (.stringLiteral c.name)))
  props : c.props ≠ [] → ∃ ms,
    Members.find? (.str "props") options = .ok (some (option "props" (.objectExpression ms))) ∧
      Lists IsPropMember c.props ms
  components : dependencies ≠ [] → ∃ ms,
    Members.find? (.str "components") options =
        .ok (some (option "components" (.objectExpression ms))) ∧
      Members.keys ms = .ok dependencies ∧
      (∀ d ∈ dependencies, Members.find? d ms = .ok (some (binding d))) ∧
      ∀ w, w ∉ dependencies → Members.find? w ms = .ok none
  data : data ≠ [] → ∃ ms,
    Members.find? (.str "data") options = .ok (some (.objectMethod (.identifier (.str "data")) []
        (.blockStatement [.returnStatement (some (.objectExpression ms))]))) ∧
      Lists IsValueMember data ms
  methods : handlers ≠ [] → ∃ ms,
    Members.find? (.str "methods") options = .ok (some (option "methods" (.objectExpression ms))) ∧
      Lists (IsEventMember c.props) handlers ms ∧
      ∀ e ∈ handlers, (∀ x ∈ Handlers.placedFrom e.1 0 e.2,
          (x.compile c.props).result = .ok none) →
        ∃ k, e.1 = .str k ∧
          Members.find? e.1 ms = .ok (some (.objectMethod (.key k) [] (.blockStatement [])))

theorem isKeyed_option (k : String) (n : Node) : IsKeyed (.str k) (option k n) := ⟨_, rfl, rfl⟩

theorem isKeyed_of_object {k : String} {P : List Node → Prop} {n : Node}
    (h : ∃ ms, n = option k (.objectExpression ms) ∧ P ms) : IsKeyed (.str k) n := by
  obtain ⟨ms, rfl, -⟩ := h
  exact isKeyed_option k _

/-- The names of components are bound to themselves, each as often as it is given. -/
theorem lists_components {dependencies : List Value} {n : Node}
    (h : (Recorded.lift do return option "components" (← usedComponents dependencies)).result =
      .ok n) :
    ∃ ms, n = option "components" (.objectExpression ms) ∧ Members.keys ms = .ok dependencies ∧
      (∀ d ∈ dependencies, Members.find? d ms = .ok (some (binding d))) ∧
      ∀ w, w ∉ dependencies → Members.find? w ms = .ok none := by
  obtain ⟨used, hused, h⟩ := Result.bind_eq_ok.mp h
  cases h
  obtain ⟨_, hcheck, hused⟩ := Result.bind_eq_ok.mp hused
  cases hused
  have hnames : Entries.keys (dependencies.map fun d => (d, ())) = dependencies := by
    rw [Entries.keys, List.map_map]
    exact List.map_id dependencies
  have hbindings : Lists (fun e m => m = binding e.1) (dependencies.map fun d => (d, ()))
      (dependencies.map binding) := by
    refine lists_of_forall₂ (List.forall_mem_map.mpr fun d hd => ?_) ?_
      fun e _ f _ hef m hm => hef ▸ hm
    · exact (references_of_check hcheck d hd).imp fun _ hk => hk.1
    · rw [List.forall₂_map_left_iff, List.forall₂_map_right_iff]
      exact List.forall₂_same.mpr fun d _ => ⟨⟨_, rfl, rfl⟩, rfl⟩
  refine ⟨_, rfl, hbindings.keys.trans (congrArg _ hnames), fun d hd => ?_,
    fun w hw => hbindings.absent w (hnames.symm ▸ hw)⟩
  obtain ⟨m, hm, rfl⟩ := hbindings.found (d, ()) (List.mem_map_of_mem hd)
  exact hm

section

variable {c : Component} {dependencies : List Value} {data : Entries Value} {handlers : Handlers}

theorem lists_props {n : Node} (hprops : c.props.IsPlain written)
    (h : (Recorded.lift do return option "props" (.objectExpression
      (← literalMembers (← PropDefinition.descriptors c.props)))).result = .ok n) :
    ∃ ms, n = option "props" (.objectExpression ms) ∧ Lists IsPropMember c.props ms := by
  obtain ⟨es, hes, h⟩ := Result.bind_eq_ok.mp h
  obtain ⟨ms, hms, h⟩ := Result.bind_eq_ok.mp h
  cases h
  have hmade := forall₂_descriptors hes (forall₂_literalMembers hms)
  refine ⟨ms, rfl, hprops.lists (((List.forall₂_and_left _ _).mpr ⟨fun p hp => hp, hmade⟩).imp ?_)⟩
  rintro p m ⟨hp, v, hv, hm⟩
  exact ⟨hm.isKeyed (hprops.key hp).choose_spec.1, v, hv, hm⟩

theorem lists_data {n : Node} (hdata : data.IsPlain written)
    (h : (Recorded.lift (dataMethod (.map data))).result = .ok n) :
    ∃ ms, n = .objectMethod (.identifier (.str "data")) []
        (.blockStatement [.returnStatement (some (.objectExpression ms))]) ∧
      Lists IsValueMember data ms := by
  obtain ⟨state, hstate, h⟩ := Result.bind_eq_ok.mp h
  cases h
  obtain ⟨es, hes, hstate⟩ := Result.bind_eq_ok.mp hstate
  cases hes
  obtain ⟨ms, hms, hstate⟩ := Result.bind_eq_ok.mp hstate
  cases hstate
  refine ⟨ms, rfl, hdata.lists
    (((List.forall₂_and_left _ _).mpr ⟨fun e he => he, forall₂_literalMembers hms⟩).imp ?_)⟩
  rintro e m ⟨he, hm⟩
  exact ⟨hm.isKeyed (hdata.key he).choose_spec.1, hm⟩

theorem lists_methods {n : Node} (hhandlers : Entries.IsPlain written handlers)
    (h : (do
      let bodies ← handlers.compile c.props
      return option "methods" (.objectExpression (← Component.methods bodies))).result = .ok n) :
    ∃ ms, n = option "methods" (.objectExpression ms) ∧
      Lists (IsEventMember c.props) handlers ms := by
  rw [Recorded.result_bind] at h
  obtain ⟨bodies, hbodies, h⟩ := Result.bind_eq_ok.mp h
  rw [Recorded.result_bind] at h
  obtain ⟨ms, hms, h⟩ := Result.bind_eq_ok.mp h
  cases h
  exact ⟨ms, rfl, hhandlers.lists (forall₂_methods hbodies hms)⟩

theorem isEmpty_eq_false {α : Type} {as : List α} (h : as ≠ []) : (!as.isEmpty) = true := by
  simpa using h

/-- The sections that there are, one after the other, stand under the names of all that there is
something to put into. -/
theorem keys_sections {ps us ss es : Entries Node} (n : Node)
    (hps : ps.keys = if !c.props.isEmpty then [.str "props"] else [])
    (hus : us.keys = if !dependencies.isEmpty then [.str "components"] else [])
    (hss : ss.keys = if !data.isEmpty then [.str "data"] else [])
    (hes : es.keys = if !handlers.isEmpty then [.str "methods"] else []) :
    Entries.keys ((.str "name", n) :: (ps ++ us ++ ss ++ es)) =
      (c.sections dependencies data handlers).map .str := by
  have hkeys : Entries.keys ((.str "name", n) :: (ps ++ us ++ ss ++ es)) =
      .str "name" :: (ps.keys ++ us.keys ++ ss.keys ++ es.keys) := by
    simp [Entries.keys]
  rw [hkeys, hps, hus, hss, hes, sections]
  cases c.props.isEmpty <;> cases dependencies.isEmpty <;> cases data.isEmpty <;>
    cases handlers.isEmpty <;> rfl

/-- The object that declares a component lists every input once and in order: a section for each
kind of input that there is, and in it a member for each entry. -/
theorem declaration_lists (hprops : c.props.IsPlain written) (hdata : data.IsPlain written)
    (hhandlers : Entries.IsPlain written handlers) {n : Node}
    (hn : (c.declaration dependencies (.map data) handlers).result = .ok n) :
    ∃ options, n = .exportDefault (.objectExpression options) ∧
      c.ListsInputs dependencies data handlers options := by
  rw [declaration, Recorded.result_bind] at hn
  obtain ⟨options, hoptions, hn⟩ := Result.bind_eq_ok.mp hn
  cases hn
  refine ⟨options, rfl, ?_⟩
  simp only [members, Recorded.result_bind] at hoptions
  obtain ⟨p, hp, hoptions⟩ := Result.bind_eq_ok.mp hoptions
  obtain ⟨u, hu, hoptions⟩ := Result.bind_eq_ok.mp hoptions
  obtain ⟨s, hs, hoptions⟩ := Result.bind_eq_ok.mp hoptions
  obtain ⟨m, hm, hoptions⟩ := Result.bind_eq_ok.mp hoptions
  cases hoptions
  obtain ⟨ps, hpsKeys, hps, hpsFound⟩ := optional_listed hp fun n hn =>
    have hlisted := lists_props hprops hn
    ⟨isKeyed_of_object hlisted, hlisted⟩
  obtain ⟨us, husKeys, hus, husFound⟩ := optional_listed hu fun n hn =>
    have hlisted := lists_components hn
    ⟨isKeyed_of_object hlisted, hlisted⟩
  obtain ⟨ss, hssKeys, hss, hssFound⟩ := optional_listed (k := "data") hs fun n hn =>
    have hlisted := lists_data hdata hn
    have hkeyed : IsKeyed (.str "data") n := by
      obtain ⟨ms, rfl, -⟩ := hlisted
      exact ⟨_, rfl, rfl⟩
    ⟨hkeyed, hlisted⟩
  obtain ⟨es, hesKeys, hes, hesFound⟩ := optional_listed hm fun n hn =>
    have hlisted := lists_methods hhandlers hn
    ⟨isKeyed_of_object hlisted, hlisted⟩
  -- the sections as entries under their names
  let all : Entries Node :=
    (.str "name", option "name" (.stringLiteral c.name)) :: (ps ++ us ++ ss ++ es)
  have hkeys : all.keys = (c.sections dependencies data handlers).map .str :=
    keys_sections _ hpsKeys husKeys hssKeys hesKeys
  have hmembers : List.Forall₂ (fun e m => IsKeyed e.1 m ∧ m = e.2) all
      (option "name" (.stringLiteral c.name) :: (p ++ u ++ s ++ m)) :=
    .cons ⟨isKeyed_option _ _, rfl⟩
      (List.rel_append (List.rel_append (List.rel_append hps hus) hss) hes)
  have hplain : all.IsPlain written :=
    ⟨_, hkeys, c.nodup_sections dependencies data handlers, fun _ _ => trivial⟩
  have hlists := hplain.lists hmembers
  refine ⟨hkeys ▸ hlists.keys, fun w hw => hlists.absent w (hkeys ▸ hw),
    hlists.find? List.mem_cons_self, fun hne => ?_, fun hne => ?_, fun hne => ?_, fun hne => ?_⟩
  · obtain ⟨_, ⟨ms, rfl, hms⟩, hmem⟩ := hpsFound (isEmpty_eq_false hne)
    exact ⟨ms, hlists.find? (by simp [all, hmem]), hms⟩
  · obtain ⟨_, ⟨ms, rfl, hms⟩, hmem⟩ := husFound (isEmpty_eq_false hne)
    exact ⟨ms, hlists.find? (by simp [all, hmem]), hms⟩
  · obtain ⟨_, ⟨ms, rfl, hms⟩, hmem⟩ := hssFound (isEmpty_eq_false hne)
    exact ⟨ms, hlists.find? (by simp [all, hmem]), hms⟩
  · obtain ⟨_, ⟨ms, rfl, hms⟩, hmem⟩ := hesFound (isEmpty_eq_false hne)
    refine ⟨ms, hlists.find? (by simp [all, hmem]), hms, fun e he hout => ?_⟩
    obtain ⟨m, hm, hmade⟩ := hms.found e he
    obtain ⟨k, hk, rfl⟩ := hmade.eq_of_left_out hout
    exact ⟨k, hk, hm⟩

/-- A panel whose only event calls a prop that it has not: the method for it is empty. -/
theorem declaration_lists_panel : ∃ n options,
    (declaration ⟨.str "Panel", [(.str "is-open", ⟨.str "boolean", none, true⟩)], []⟩
        [.str "Item"] (.map [(.str "", .null), (.str "toString", .int 0)])
        [(.str "on close", [.propCall (.str "close") []])]).result = .ok n ∧
      n = .exportDefault (.objectExpression options) ∧
      Members.keys options = .ok [.str "name", .str "props", .str "components", .str "data",
        .str "methods"] ∧
      Members.find? (.str "toString") options = .ok none ∧
      ∃ ms, Members.find? (.str "methods") options =
          .ok (some (option "methods" (.objectExpression ms))) ∧
        Members.find? (.str "on close") ms =
          .ok (some (.objectMethod (.stringLiteral (.str "on close")) []
            (.blockStatement []))) := by
  let props : Entries PropDefinition := [(.str "is-open", ⟨.str "boolean", none, true⟩)]
  let data : Entries Value := [(.str "", .null), (.str "toString", .int 0)]
  let handlers : Handlers := [(.str "on close", [.propCall (.str "close") []])]
  have hprops : props.IsPlain written := ⟨["is-open"], rfl, by decide, fun _ _ => trivial⟩
  have hdata : data.IsPlain written := ⟨["", "toString"], rfl, by decide, fun _ _ => trivial⟩
  have hhandlers : Entries.IsPlain written handlers :=
    ⟨["on close"], rfl, by decide, fun _ _ => trivial⟩
  obtain ⟨n, hn⟩ : ∃ n, (declaration ⟨.str "Panel", props, []⟩ [.str "Item"] (.map data)
    handlers).result = .ok n := ⟨_, rfl⟩
  obtain ⟨options, hoptions, hlists⟩ := declaration_lists hprops hdata hhandlers hn
  obtain ⟨ms, hms, -, hout⟩ := hlists.methods (List.cons_ne_nil _ _)
  refine ⟨n, options, hn, hoptions, hlists.keys, hlists.absent _ ?_, ms, hms, ?_⟩
  · simp [sections, data]
  obtain ⟨k, hk, hfound⟩ := hout _ List.mem_cons_self (List.forall_mem_singleton.mpr rfl)
  cases hk
  exact hfound

end

end Component

end Componentry
