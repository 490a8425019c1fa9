import Componentry.Proofs.Component.Flawed
import Componentry.Proofs.Component.Listed
import Componentry.Proofs.Component.Reuse

/-!
# Components under their own names

A component that is used is bound to its own name, so what is written for it is that name, which has
to be one identifier. A name with a line feed behind it is let through besides, reserved or not. So
what is written is one identifier for each name, and other names are refused, just if no such name
gets that far.
-/

namespace Componentry

open Script (Style printNode lexemes broken)

namespace Naming

/-- A name that is one identifier, and not a reserved word. -/
structure IsReferable (s : String) : Prop where
  begins : s.toList.head?.any beginsIdentifier = true
  continues : ∀ c ∈ s.toList, continuesIdentifier c = true
  free : s ∉ reservedWords

variable {s : String}

theorem identifierTail_of_forall {cs : List Char} (h : ∀ c ∈ cs, continuesIdentifier c = true) :
    identifierTail cs = true := by
  fun_induction identifierTail cs with
  | case1 => rfl
  | case2 => rfl
  | case3 c rest _ ih =>
    obtain ⟨hc, hrest⟩ := List.forall_mem_cons.mp h
    rw [hc, ih hrest]
    rfl

theorem isReference_of_isReferable (h : IsReferable s) : isReference s = true := by
  have hname : isIdentifierName s = true := by
    have hbegins := h.begins
    have hcontinues := h.continues
    unfold isIdentifierName
    cases hs : s.toList with
    | nil =>
      rw [hs] at hbegins
      cases hbegins
    | cons c cs =>
      rw [hs] at hbegins hcontinues
      have hc : beginsIdentifier c = true := hbegins
      dsimp only
      rw [hc, identifierTail_of_forall fun d hd => hcontinues d (List.mem_cons_of_mem c hd)]
      rfl
  rw [isReference, hname, Bool.true_and, Bool.not_eq_true', Bool.eq_false_iff, ne_eq,
    List.contains_iff_mem]
  exact h.free

theorem IsReferable.not_mem (h : IsReferable s) : '\n' ∉ s.toList := fun hmem =>
  absurd (h.continues '\n' hmem) (by decide)

/-- A name that is let through can be referred to unless it has a line feed. -/
theorem isReferable_iff : IsReferable s ↔ isReference s = true ∧ '\n' ∉ s.toList := by
  refine ⟨fun h => ⟨isReference_of_isReferable h, h.not_mem⟩, fun ⟨hreference, hmem⟩ => ?_⟩
  rw [isReference, Bool.and_eq_true, Bool.not_eq_true', Bool.eq_false_iff, ne_eq,
    List.contains_iff_mem] at hreference
  obtain ⟨hname, hfree⟩ := hreference
  obtain ⟨name, ws, heq, hws, hbegins, hcontinues, -⟩ := Script.bareName_parts hname
  obtain rfl : ws = [] := hws.resolve_right fun hfeed =>
    hmem (heq ▸ List.mem_append_right name (hfeed ▸ List.mem_singleton_self _))
  rw [List.append_nil] at heq
  exact ⟨heq ▸ hbegins, heq ▸ hcontinues, hfree⟩

/-- A name that can be referred to is one word of the script. -/
theorem IsReferable.lexemes (h : IsReferable s) (b : Bool) :
    lexemes b s.toList = some [⟨.word s, b⟩] := by
  have hword : Script.lexemes b (s.toList ++ []) = _ :=
    Script.lexemes_word b h.begins h.continues rfl
  rwa [List.append_nil, String.ofList_toList, Script.lexemes_nil] at hword

end Naming

namespace Component

/-- The text of an object with these members, within the margins of a style. -/
def objectText (style : Style) (level : Nat) (members : List String) : Result Value := do
  let inner ← style.margin (level + 1)
  let outer ← style.margin level
  return .str (broken "\x7b" "\x7d" "," inner outer members)

theorem printMembers_bindings {names : List String}
    (h : ∀ name ∈ names, Naming.isReference name = true) (style : Style) (level : Nat) :
    Script.printMembers style level (names.map fun name => binding (.str name)) = .ok names := by
  induction names with
  | nil => rfl
  | cons name names ih =>
    obtain ⟨hname, hnames⟩ := List.forall_mem_cons.mp h
    rw [Naming.isReference, Bool.and_eq_true] at hname
    rw [List.map_cons, Script.printMembers, binding, Script.printMember_binding hname.1, ih hnames]
    rfl

/-- The object that binds components to their names is written as the names. -/
theorem printNode_bindings {names : List String}
    (h : ∀ name ∈ names, Naming.isReference name = true) (hne : names ≠ []) (style : Style)
    (level : Nat) :
    printNode style level (.objectExpression (names.map fun name => binding (.str name))) =
      objectText style level names := by
  have hmembers := printMembers_bindings h style (level + 1)
  cases names with
  | nil => exact absurd rfl hne
  | cons name names =>
    rw [List.map_cons] at hmembers
    rw [List.map_cons, printNode, hmembers]
    · rfl
    · nofun

theorem checkDependencies_str {names : List String}
    (h : ∀ name ∈ names, Naming.isReference name = true) :
    checkDependencies (names.map .str) = .ok () := by
  induction names with
  | nil => rfl
  | cons name names ih =>
    obtain ⟨hname, hnames⟩ := List.forall_mem_cons.mp h
    rw [List.map_cons, checkDependencies, Value.text, Result.ok_bind, hname, if_pos rfl, ih hnames]

theorem usedComponents_str {names : List String}
    (h : ∀ name ∈ names, Naming.isReference name = true) :
    usedComponents (names.map .str) =
      .ok (.objectExpression (names.map fun name => binding (.str name))) := by
  rw [usedComponents, checkDependencies_str h, List.map_map]
  rfl

/-- A section is there with its only member, or it is left out. -/
theorem optional_eq_ok {present : Bool} {member : Recorded Node} {ns : List Node}
    (h : (optional present member).result = .ok ns) :
    present = false ∧ ns = [] ∨ present = true ∧ ∃ n, member.result = .ok n ∧ ns = [n] := by
  cases present with
  | false =>
    cases h
    exact .inl ⟨rfl, rfl⟩
  | true =>
    rw [optional, if_pos rfl, Recorded.result_bind] at h
    obtain ⟨n, hn, h⟩ := Result.bind_eq_ok.mp h
    cases h
    exact .inr ⟨rfl, n, hn, rfl⟩

/-- The members that declare the props. -/
def propMembers (c : Component) : Result (List Node) := do
  literalMembers (← PropDefinition.descriptors c.props)

end Component

namespace Assembler

/-- The call for a component that uses others by their names. -/
def callFor (component : Component) (names : List String) (data : Value) (handlers : Handlers) :
    Call := ⟨component, names.map .str, data, handlers⟩

/-- A declaration whose object of components is written as these names. -/
def WritesNames (names : List String) (n : Node) : Prop :=
  ∃ options members, n = .exportDefault (.objectExpression options) ∧
    Members.find? (.str "components") options =
      .ok (some (Component.option "components" (.objectExpression members))) ∧
    ∀ (style : Style) (level : Nat), printNode style level (.objectExpression members) =
      Component.objectText style level names

/-- The names of components are written as they are, each of them one identifier. With a name that
is none, a call fails with an error about such a name, unless it fails for its props before, and
neither the rest of the call nor the log counts. -/
structure BindsNames (component : Component) (names : List String) : Prop where
  bound : ∀ a data handlers n, (call a (callFor component names data handlers)).1 = .ok n →
    (names ≠ [] → WritesNames names n) ∧
    ∀ name ∈ names, Naming.IsReferable name ∧ ∀ b, lexemes b name.toList = some [⟨.word name, b⟩]
  refused : (∃ name ∈ names, ¬ Naming.IsReferable name) → ∃ f,
    (component.propMembers = .error f ∨ (∃ ms, component.propMembers = .ok ms) ∧
      ∃ name ∈ names, ¬ Naming.IsReferable name ∧
        f = .generation (.badDependency name)) ∧
    ∀ a data handlers, call a (callFor component names data handlers) = (.error f, a)

section

variable {component : Component} {names : List String} {data : Value} {handlers : Handlers}

theorem propsOption_callFor : (callFor component names data handlers).propsOption =
    component.propMembers.map fun ms => Component.option "props" (.objectExpression ms) := by
  rw [Call.propsOption, Component.propMembers, callFor]
  cases PropDefinition.descriptors component.props with
  | error f => rfl
  | ok es => cases literalMembers es <;> rfl

/-- A call whose props or names are refused fails at once. -/
theorem call_of_refused {f : Failure}
    (h : (callFor component names data handlers).checked = .error f) (a : Assembler) :
    call a (callFor component names data handlers) = (.error f, a) := by
  rcases declaration_cases (callFor component names data handlers) with
    ⟨e, he, hdeclaration⟩ | ⟨hok, -⟩
  · obtain rfl := Except.error.inj (h.symm.trans he)
    rw [call_eq, hdeclaration, List.append_nil]
  · cases h.symm.trans hok

theorem checked_of_props {f : Failure} (h : component.propMembers = .error f) :
    (callFor component names data handlers).checked = .error f := by
  rw [Call.checked, propsOption_callFor, h]
  rfl

theorem checked_of_name {ms : List Node} {before after : List String} {name : String}
    (h : component.propMembers = .ok ms) (hnames : names = before ++ name :: after)
    (hbefore : ∀ m ∈ before, Naming.isReference m = true)
    (hname : Naming.isReference name = false) :
    (callFor component names data handlers).checked =
      .error (.generation (.badDependency name)) := by
  have hcheck : Component.checkDependencies (names.map .str) =
      .error (.generation (.badDependency name)) := by
    rw [hnames, List.map_append, List.map_cons]
    exact checkDependencies_error (List.forall_mem_map.mpr fun m hm => ⟨m, rfl, hbefore m hm⟩) hname
  rw [Call.checked, propsOption_callFor, h, Call.componentsOption, callFor,
    Component.usedComponents, hcheck]
  rfl

/-- A call that fails for no props and no names gets to its data. -/
theorem exists_call_ok {ms : List Node} (h : component.propMembers = .ok ms)
    (hnames : ∀ name ∈ names, Naming.isReference name = true) (a : Assembler) :
    ∃ n, (call a (callFor component names .null [])).1 = .ok n := by
  rcases declaration_cases (callFor component names .null []) with ⟨f, hf, -⟩ | ⟨-, g, hg⟩
  · rw [Call.checked, propsOption_callFor, h, Call.componentsOption, callFor,
      Component.usedComponents_str hnames] at hf
    cases hf
  · rw [call_eq, hg]
    exact ⟨_, rfl⟩

/-- The declaration that a call gives binds the names, all of which have been let through. -/
theorem of_call_eq_ok {a : Assembler} {n : Node}
    (h : (call a (callFor component names data handlers)).1 = .ok n) :
    (∀ name ∈ names, Naming.isReference name = true) ∧ (names ≠ [] → WritesNames names n) := by
  rw [call_eq, declaration_eq] at h
  simp only [Recorded.result_bind] at h
  obtain ⟨_, hsections, h⟩ := Result.bind_eq_ok.mp h
  cases h
  obtain ⟨ps, hps, hsections⟩ := Result.bind_eq_ok.mp hsections
  obtain ⟨us, hus, hsections⟩ := Result.bind_eq_ok.mp hsections
  obtain ⟨ss, -, hsections⟩ := Result.bind_eq_ok.mp hsections
  obtain ⟨es, -, hsections⟩ := Result.bind_eq_ok.mp hsections
  cases hsections
  rcases Component.optional_eq_ok hus with ⟨hempty, -⟩ | ⟨hpresent, u, hu, rfl⟩
  · have hnil : names = [] := by simpa [callFor] using hempty
    subst hnil
    exact ⟨nofun, fun hne => absurd rfl hne⟩
  · obtain ⟨used, hused, hu⟩ := Result.bind_eq_ok.mp hu
    cases hu
    obtain ⟨_, hcheck, -⟩ := Result.bind_eq_ok.mp hused
    have hlet : ∀ name ∈ names, Naming.isReference name = true := by
      intro name hname
      obtain ⟨k, hk, hreference⟩ := references_of_check hcheck _ (List.mem_map_of_mem hname)
      cases hk
      exact hreference
    rw [callFor, Component.usedComponents_str hlet] at hused
    cases hused
    refine ⟨hlet, fun hne => ⟨_, _, rfl, ?_, Component.printNode_bindings hlet hne⟩⟩
    rw [Members.find?_cons_of_ne (Component.isKeyed_option _ _) (by simp), List.append_assoc,
      List.append_assoc]
    rcases Component.optional_eq_ok hps with ⟨-, rfl⟩ | ⟨-, p, hp, rfl⟩
    · exact Members.find?_cons_self (Component.isKeyed_option _ _) _
    · rw [Recorded.result_lift, propsOption_callFor] at hp
      obtain ⟨ms, rfl⟩ : ∃ ms, p = Component.option "props" (.objectExpression ms) := by
        cases hms : component.propMembers <;> rw [hms] at hp <;> cases hp
        exact ⟨_, rfl⟩
      rw [List.singleton_append, Members.find?_cons_of_ne (Component.isKeyed_option _ _) (by simp)]
      exact Members.find?_cons_self (Component.isKeyed_option _ _) _

end

/-- The names of components are written as they are and are one identifier each, and other names are
refused, just if the props are refused or a name is not let through or none has a line feed. -/
theorem bindsNames_iff (component : Component) (names : List String) :
    BindsNames component names ↔ ((∃ ms, component.propMembers = .ok ms) →
      (∀ name ∈ names, Naming.isReference name = true) → ∀ name ∈ names, '\n' ∉ name.toList) := by
  constructor
  · rintro ⟨-, hrefused⟩ ⟨ms, hms⟩ hlet name hname hfeed
    obtain ⟨f, -, hcalls⟩ := hrefused ⟨name, hname, fun h => h.not_mem hfeed⟩
    obtain ⟨n, hn⟩ := exists_call_ok hms hlet fresh
    rw [hcalls] at hn
    cases hn
  · intro h
    refine ⟨fun a data handlers n hn => ?_, fun ⟨bad, hbad, hunfit⟩ => ?_⟩
    · obtain ⟨hlet, hwrites⟩ := of_call_eq_ok hn
      have hprops : ∃ ms, component.propMembers = .ok ms := by
        cases hms : component.propMembers with
        | ok ms => exact ⟨ms, rfl⟩
        | error f =>
          rw [call_of_refused (checked_of_props hms)] at hn
          cases hn
      refine ⟨hwrites, fun name hname => ?_⟩
      have hfit := Naming.isReferable_iff.mpr ⟨hlet name hname, h hprops hlet name hname⟩
      exact ⟨hfit, hfit.lexemes⟩
    · cases hms : component.propMembers with
      | error f => exact ⟨f, .inl rfl, fun a _ _ => call_of_refused (checked_of_props hms) a⟩
      | ok ms =>
        rcases forall_or_exists_first (fun name => Naming.isReference name = true) names with
          hlet | ⟨before, name, after, hnames, hbefore, hname⟩
        · have hfeed := h ⟨ms, hms⟩ hlet bad hbad
          exact absurd (Naming.isReferable_iff.mpr ⟨hlet bad hbad, hfeed⟩) hunfit
        · have hmem : name ∈ names := hnames ▸ List.mem_append_cons_self
          refine ⟨_, .inr ⟨⟨ms, rfl⟩, name, hmem,
            fun hfit => hname (Naming.isReferable_iff.mp hfit).1, rfl⟩, fun a _ _ => ?_⟩
          exact call_of_refused (checked_of_name hms hnames hbefore (Bool.eq_false_iff.mpr hname)) a

/-- A reserved word with a line feed behind it is let through. -/
theorem bindsNames_iff_reserved :
    ¬ BindsNames ⟨.str "Page", [], []⟩ ["Item", "class\n"] := fun h =>
  absurd ((bindsNames_iff _ _).mp h ⟨[], rfl⟩ (by decide) "class\n" (by decide)) (by decide)

end Assembler

end Componentry
