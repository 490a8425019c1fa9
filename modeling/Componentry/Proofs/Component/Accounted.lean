import Componentry.Program.Machine
import Componentry.Program.Template.Renderer
import Componentry.Proofs.Component.Placed
import Componentry.Proofs.Component.Reuse
import Componentry.Proofs.Component.Typed
import Componentry.Proofs.Generation.Produced

/-!
# What becomes of each statement

A statement whose values have literals comes to exactly one of two things: a statement of the script
in the body of its event, or a diagnostic at its place. The bodies and the diagnostics of a
component are the two halves of what its statements come to, each half in the order of the
statements. A generated component is reported with these diagnostics as its warnings.
-/

namespace Componentry

def Value.IsConvertible (v : Value) : Prop := ∃ n, v.literal = .ok n

/-- The values of a statement have literals, and a call gives a name by a text if at all. -/
inductive Statement.IsConvertible : Statement → Prop
  | stateChange (target : Value) {value : Value} (hvalue : value.IsConvertible) :
    IsConvertible (.stateChange target value)
  | propCall {prop : Value} {args : List Value} (hprop : prop = .null ∨ ∃ name, prop = .str name)
    (hargs : ∀ v ∈ args, v.IsConvertible) : IsConvertible (.propCall prop args)

/-- Handlers of events under texts, no two of them equal, that come to something throughout. -/
structure Handlers.IsConvertible (handlers : Handlers) : Prop where
  events : Entries.IsPlain written handlers
  statements : ∀ e ∈ handlers, ∀ s ∈ e.2, s.IsConvertible

/-- What a statement comes to: a statement of the script, or a diagnostic. -/
abbrev Outcome := Node ⊕ Diagnostic

/-- A change of state is always compiled. A call is compiled if it names a prop that is defined; it
is reported if it names none, and if it names one that is not defined. -/
inductive Statement.Yields (props : Entries PropDefinition) (location : String) :
    Statement → Outcome → Prop
  | assigned {target value : Value} {n : Node} (hn : assignment target value = .ok n) :
    Yields props location (.stateChange target value) (.inl n)
  | emitted {name : String} {args : List Value} {n : Node} (hname : name ≠ "")
    (hprop : .str name ∈ props.keys) (hn : emission (.str name) args = .ok n) :
    Yields props location (.propCall (.str name) args) (.inl n)
  | missing {prop : Value} (args : List Value) (hprop : prop = .null ∨ prop = .str "") :
    Yields props location (.propCall prop args) (.inr (.missingCall location))
  | unknown {name : String} (args : List Value) (hname : name ≠ "")
    (hprop : .str name ∉ props.keys) :
    Yields props location (.propCall (.str name) args) (.inr (.unknownProp name location))

section

variable {props : Entries PropDefinition} {location : String} {s : Statement} {o o' : Outcome}

theorem Statement.IsConvertible.exists_yields (h : s.IsConvertible)
    (props : Entries PropDefinition) (location : String) : ∃ o, s.Yields props location o := by
  cases h with
  | @stateChange target value hvalue =>
    obtain ⟨n, hn⟩ := hvalue
    cases htoggle : isToggle value with
    | true => exact ⟨_, .assigned (assignment_toggle htoggle)⟩
    | false => exact ⟨_, .assigned (assignment_literal htoggle hn)⟩
  | @propCall prop args hprop hargs =>
    rcases hprop with rfl | ⟨name, rfl⟩
    · exact ⟨_, .missing args (.inl rfl)⟩
    · by_cases hname : name = ""
      · exact ⟨_, .missing args (.inr (congrArg _ hname))⟩
      · by_cases hdefined : .str name ∈ props.keys
        · obtain ⟨ns, hns, -⟩ := literalItems_ok (P := fun _ _ => True) fun v hv =>
            (hargs v hv).imp fun _ hn => ⟨hn, trivial⟩
          exact ⟨_, .emitted hname hdefined (emission_ok hns _)⟩
        · exact ⟨_, .unknown args hname hdefined⟩

theorem isNone_find?_iff (name : String) :
    (props.find? (.str name)).isNone = true ↔ .str name ∉ props.keys := by
  rw [isNone_find?, Bool.not_eq_true', Bool.eq_false_iff, ne_eq, List.any_eq_true]
  simp [isText_iff]

theorem compile_of_yields (h : s.Yields props location o) :
    s.compile props location = ⟨o.getRight?.toList, .ok o.getLeft?⟩ := by
  cases h with
  | assigned hn =>
    rw [Statement.compile, hn]
    rfl
  | @emitted name args n hname hprop hn =>
    have htruthy : (Value.str name).truthy = true := by simp [Value.truthy, hname]
    have hkey : (Value.str name).canBeKey = true := rfl
    have hfind : (props.find? (.str name)).isNone ≠ true := fun h =>
      (isNone_find?_iff name).mp h hprop
    simp only [Statement.compile, htruthy, hkey, hfind, hn]
    rfl
  | missing args hprop => rcases hprop with rfl | rfl <;> rfl
  | @unknown name args hname hprop =>
    have htruthy : (Value.str name).truthy = true := by simp [Value.truthy, hname]
    have hkey : (Value.str name).canBeKey = true := rfl
    have hfind := (isNone_find?_iff name).mpr hprop
    simp only [Statement.compile, htruthy, hkey, hfind]
    rfl

end

/-- A call that names no prop. -/
def Statement.CallsNothing (s : Statement) : Prop :=
  ∃ prop args, s = .propCall prop args ∧ (prop = .null ∨ prop = .str "")

/-- A call of a prop that is not defined. -/
def Statement.CallsUndefined (props : Entries PropDefinition) (s : Statement) : Prop :=
  ∃ name args, s = .propCall (.str name) args ∧ name ≠ "" ∧ .str name ∉ props.keys

namespace Statement.Yields

variable {props : Entries PropDefinition} {location : String} {s : Statement} {o : Outcome}

theorem location_eq (h : s.Yields props location o) :
    ∀ d ∈ o.getRight?.toList, d.location = some location := by
  cases h <;> simp [Diagnostic.missingCall, Diagnostic.unknownProp]

theorem missing_iff (h : s.Yields props location o) :
    (∃ d ∈ o.getRight?.toList, d.code = "missing-calls") ↔ s.CallsNothing := by
  cases h with
  | assigned hn => simp [CallsNothing]
  | emitted hname hprop hn => simp [CallsNothing, hname]
  | missing args hprop => simpa [CallsNothing, Diagnostic.missingCall] using hprop
  | unknown args hname hprop => simp [CallsNothing, Diagnostic.unknownProp, hname]

theorem unknown_iff (h : s.Yields props location o) :
    (∃ d ∈ o.getRight?.toList, d.code = "unknown-prop") ↔ s.CallsUndefined props := by
  cases h with
  | assigned hn => simp [CallsUndefined]
  | emitted hname hprop hn => simp [CallsUndefined, hprop]
  | missing args hprop =>
    rcases hprop with rfl | rfl <;> simp [CallsUndefined, Diagnostic.missingCall]
  | unknown args hname hprop => simp [CallsUndefined, Diagnostic.unknownProp, hname, hprop]

end Statement.Yields

abbrev Outcomes := Entries (List Outcome)

namespace Outcomes

def compiled (os : List Outcome) : List Node := os.filterMap Sum.getLeft?

def reported (os : List Outcome) : List Diagnostic := os.filterMap Sum.getRight?

def bodies (outcomes : Outcomes) : Entries (List Node) := outcomes.map fun f => (f.1, compiled f.2)

def diagnostics (outcomes : Outcomes) : List Diagnostic := outcomes.flatMap fun f => reported f.2

end Outcomes

/-- Outcomes of statements with their places, in the order of the statements. -/
def YieldAll (props : Entries PropDefinition) : List Placed → List Outcome → Prop :=
  List.Forall₂ fun x o => ∃ place, x.1 = .ok place ∧ x.2.Yields props place o

/-- The outcomes of the statements of each event, in the order of the events. -/
def Accounts (props : Entries PropDefinition) : Handlers → Outcomes → Prop :=
  List.Forall₂ fun e f => f.1 = e.1 ∧ YieldAll props (Handlers.placedFrom e.1 0 e.2) f.2

section

variable {props : Entries PropDefinition} {handlers : Handlers} {outcomes : Outcomes}

theorem exists_yieldAll {statements : List Statement} (h : ∀ s ∈ statements, s.IsConvertible)
    (props : Entries PropDefinition) (event : String) (index : Nat) :
    ∃ os, YieldAll props (Handlers.placedFrom (.str event) index statements) os := by
  induction statements generalizing index with
  | nil => exact ⟨[], .nil⟩
  | cons s rest ih =>
    obtain ⟨hs, hrest⟩ := List.forall_mem_cons.mp h
    obtain ⟨o, ho⟩ := hs.exists_yields props (Handlers.place event index)
    obtain ⟨os, hos⟩ := ih hrest (index + 1)
    exact ⟨o :: os, .cons ⟨_, rfl, ho⟩ hos⟩

theorem Handlers.IsConvertible.exists_accounts (h : handlers.IsConvertible)
    (props : Entries PropDefinition) : ∃ outcomes, Accounts props handlers outcomes := by
  obtain ⟨hevents, hstatements⟩ := h
  induction handlers with
  | nil => exact ⟨[], .nil⟩
  | cons e rest ih =>
    obtain ⟨event, statements⟩ := e
    obtain ⟨hothers, k, rfl, -, -⟩ := hevents.cons
    obtain ⟨he, hrest⟩ := List.forall_mem_cons.mp hstatements
    obtain ⟨os, hos⟩ := exists_yieldAll he props k 0
    obtain ⟨outcomes, houtcomes⟩ := ih hothers hrest
    exact ⟨(.str k, os) :: outcomes, .cons ⟨rfl, hos⟩ houtcomes⟩

theorem compileBody_of_yieldAll {event : Value} {index : Nat} {statements : List Statement}
    {os : List Outcome} (h : YieldAll props (Handlers.placedFrom event index statements) os) :
    Handlers.compileBody props event index statements =
      ⟨Outcomes.reported os, .ok (Outcomes.compiled os)⟩ := by
  induction statements generalizing index os with
  | nil =>
    cases h
    rfl
  | cons s rest ih =>
    cases h with
    | @cons _ o _ os hs hrest =>
      obtain ⟨place, hplace, hs⟩ := hs
      have hcompile : Placed.compile props (Handlers.location event index, s) =
          s.compile props place := by
        rw [Placed.compile, show Handlers.location event index = .ok place from hplace]
        exact Recorded.ok_bind place _
      rw [Handlers.compileBody_cons, hcompile, compile_of_yields hs, ih hrest,
        Recorded.bind_of_ok rfl, Recorded.map_ok]
      cases o <;> rfl

theorem Accounts.compile_eq (h : Accounts props handlers outcomes) :
    handlers.compile props = ⟨outcomes.diagnostics, .ok outcomes.bodies⟩ := by
  induction h with
  | nil => rfl
  | @cons e f rest outcomes hf _ ih =>
    obtain ⟨event, statements⟩ := e
    obtain ⟨key, os⟩ := f
    obtain ⟨rfl, hos⟩ := hf
    rw [Handlers.compile, compileBody_of_yieldAll hos, ih, Recorded.bind_of_ok rfl,
      Recorded.map_ok]
    rfl

/-- The diagnostics at a place. -/
def Outcomes.reportedAt (place : String) (ds : List Diagnostic) : List Diagnostic :=
  ds.filter fun d => d.location = some place

theorem Statement.Yields.unique {location : String} {s : Statement} {o o' : Outcome}
    (h : s.Yields props location o) (h' : s.Yields props location o') : o = o' := by
  obtain ⟨hreported, hcompiled⟩ := Recorded.mk.inj
    ((compile_of_yields h).symm.trans (compile_of_yields h'))
  cases o with
  | inl n =>
    cases o' with
    | inl n' => exact congrArg Sum.inl (Option.some.inj (Except.ok.inj hcompiled))
    | inr d' => cases hreported
  | inr d =>
    cases o' with
    | inl n' => cases hreported
    | inr d' => exact congrArg Sum.inr (List.cons.inj hreported).1

section

variable {xs : List Placed} {os : List Outcome}

theorem YieldAll.append {ys : List Placed} {os' : List Outcome}
    (h : YieldAll props xs os) (h' : YieldAll props ys os') :
    YieldAll props (xs ++ ys) (os ++ os') := List.rel_append h h'

theorem Accounts.placed (h : Accounts props handlers outcomes) :
    YieldAll props handlers.placed (outcomes.flatMap (·.2)) := by
  induction h with
  | nil => exact .nil
  | cons he _ ih => exact he.2.append ih

theorem diagnostics_eq (outcomes : Outcomes) :
    outcomes.diagnostics = Outcomes.reported (outcomes.flatMap (·.2)) := by
  rw [Outcomes.reported, List.filterMap_flatMap]
  rfl

theorem reportedAt_cons (place : String) (o : Outcome) (os : List Outcome) :
    Outcomes.reportedAt place (Outcomes.reported (o :: os)) =
      Outcomes.reportedAt place o.getRight?.toList ++
        Outcomes.reportedAt place (Outcomes.reported os) := by
  rw [Outcomes.reportedAt, Outcomes.reportedAt, Outcomes.reportedAt, ← List.filter_append]
  cases o <;> rfl

/-- A statement reports at its own place only. -/
theorem Statement.Yields.reportedAt_eq {location : String} {s : Statement} {o : Outcome}
    (h : s.Yields props location o) (place : String) :
    Outcomes.reportedAt place o.getRight?.toList =
      if place = location then o.getRight?.toList else [] := by
  split_ifs with hplace
  · refine List.filter_eq_self.mpr fun d hd => ?_
    rw [h.location_eq d hd, hplace]
    exact decide_eq_true rfl
  · refine List.filter_eq_nil_iff.mpr fun d hd => ?_
    rw [h.location_eq d hd]
    simpa using Ne.symm hplace

theorem YieldAll.reportedAt_of_not_mem (h : YieldAll props xs os) {place : String}
    (hplace : .ok place ∉ xs.map (·.1)) :
    Outcomes.reportedAt place (Outcomes.reported os) = [] := by
  induction h with
  | nil => rfl
  | @cons x o xs os hx hrest ih =>
    obtain ⟨own, hown, hx⟩ := hx
    obtain ⟨hne, hplace⟩ := not_or.mp (mt List.mem_cons.mpr hplace)
    have hne : place ≠ own := fun heq => hne (heq ▸ hown.symm)
    rw [reportedAt_cons, hx.reportedAt_eq, if_neg hne, ih hplace]
    rfl

/-- What is reported at a place is what the statement there comes to, if no other stands there. -/
theorem YieldAll.exists_at (h : YieldAll props xs os) (hplaces : (xs.map (·.1)).Nodup)
    {place : String} {s : Statement} (hs : (.ok place, s) ∈ xs) : ∃ o, s.Yields props place o ∧
      Outcomes.reportedAt place (Outcomes.reported os) = o.getRight?.toList := by
  induction h with
  | nil => cases hs
  | @cons y o xs os hy hrest ih =>
    obtain ⟨own, hown, hy⟩ := hy
    obtain ⟨hfresh, hplaces⟩ := List.nodup_cons.mp hplaces
    rcases List.mem_cons.mp hs with rfl | hs
    · cases hown
      refine ⟨o, hy, ?_⟩
      rw [reportedAt_cons, hy.reportedAt_eq, if_pos rfl,
        YieldAll.reportedAt_of_not_mem hrest hfresh, List.append_nil]
    · obtain ⟨o', ho', hat⟩ := ih hplaces hs
      have hne : place ≠ own := fun heq =>
        hfresh (List.mem_map.mpr ⟨_, hs, heq ▸ hown.symm⟩)
      refine ⟨o', ho', ?_⟩
      rw [reportedAt_cons, hy.reportedAt_eq, if_neg hne, hat, List.nil_append]

theorem YieldAll.getElem?_eq {event : String} {index i : Nat} {statements : List Statement}
    {s : Statement} (h : YieldAll props (Handlers.placedFrom (.str event) index statements) os)
    (hs : statements[i]? = some s) :
    ∃ o, os[i]? = some o ∧ s.Yields props (Handlers.place event (index + i)) o := by
  induction statements generalizing index i os with
  | nil => cases hs
  | cons t rest ih =>
    cases h with
    | @cons _ o _ os ht hrest =>
      cases i with
      | zero =>
        obtain ⟨place, hplace, ht⟩ := ht
        cases hplace
        cases hs
        exact ⟨o, rfl, ht⟩
      | succ i =>
        obtain ⟨o', ho', hyields⟩ := ih hrest hs
        exact ⟨o', ho', by rwa [Nat.add_right_comm] at hyields⟩

end

theorem get?_bodies (outcomes : Outcomes) (event : String) :
    outcomes.bodies.get? event = (outcomes.get? event).map Outcomes.compiled := by
  induction outcomes with
  | nil => rfl
  | cons f rest ih =>
    obtain ⟨key, os⟩ := f
    rw [Outcomes.bodies, List.map_cons, Entries.get?_cons, Entries.get?_cons]
    split_ifs
    · rfl
    · exact ih

/-- An event has outcomes just if it has statements, and then they are those of its statements. -/
theorem Accounts.rel_get? (h : Accounts props handlers outcomes) (event : String) :
    Option.Rel (fun statements os =>
      YieldAll props (Handlers.placedFrom (.str event) 0 statements) os)
      (handlers.get? event) (outcomes.get? event) := by
  induction h with
  | nil => exact .none
  | @cons e f rest outcomes he _ ih =>
    obtain ⟨key, statements⟩ := e
    obtain ⟨key', os⟩ := f
    obtain ⟨rfl, hos⟩ := he
    rw [Entries.get?_cons, Entries.get?_cons]
    split_ifs with hkey
    · exact .some ((isText_iff key' event).mp hkey ▸ hos)
    · exact ih

theorem Accounts.exists_event (h : Accounts props handlers outcomes) {event : String}
    {statements : List Statement} (hevent : handlers.get? event = some statements) :
    ∃ os, outcomes.get? event = some os ∧
      YieldAll props (Handlers.placedFrom (.str event) 0 statements) os := by
  have hrel := h.rel_get? event
  rw [hevent] at hrel
  generalize outcomes.get? event = found at hrel
  cases hrel with
  | some hyields => exact ⟨_, rfl, hyields⟩

theorem Accounts.keys_eq (h : Accounts props handlers outcomes) :
    outcomes.keys = handlers.keys := by
  induction h with
  | nil => rfl
  | cons he _ ih => exact congrArg₂ List.cons he.1 ih

theorem keys_bodies (outcomes : Outcomes) : outcomes.bodies.keys = outcomes.keys := by
  rw [Entries.keys, Outcomes.bodies, List.map_map]
  rfl

/-- What becomes of a statement at an index of an event: it has its part in the body of the event,
or it alone is reported at its place, under the code for what is wrong with it. -/
def Outcomes.SettledAt (props : Entries PropDefinition) (outcomes : Outcomes) (event : String)
    (index : Nat) (s : Statement) : Prop :=
  ∃ os o, outcomes.get? event = some os ∧
    outcomes.bodies.get? event = some (compiled os) ∧ os[index]? = some o ∧
    s.Yields props (Handlers.place event index) o ∧
    reportedAt (Handlers.place event index) outcomes.diagnostics = o.getRight?.toList ∧
    ((∃ d ∈ o.getRight?.toList, d.code = "missing-calls") ↔ s.CallsNothing) ∧
    ((∃ d ∈ o.getRight?.toList, d.code = "unknown-prop") ↔ s.CallsUndefined props)

theorem Accounts.settledAt (h : Accounts props handlers outcomes)
    (hevents : Entries.IsPlain written handlers) {event : String} {index : Nat} {s : Statement}
    (hs : handlers.Holds event index s) : outcomes.SettledAt props event index s := by
  have hplaced : (.ok (Handlers.place event index), s) ∈ handlers.placed :=
    (Handlers.mem_placed_iff hevents).mpr ⟨event, index, hs, rfl⟩
  obtain ⟨statements, hstatements, hindex⟩ := hs
  obtain ⟨os, hos, hyields⟩ := h.exists_event hstatements
  have hbody : outcomes.bodies.get? event = some (Outcomes.compiled os) := by
    rw [get?_bodies, hos]
    rfl
  obtain ⟨o, ho, hyield⟩ := hyields.getElem?_eq hindex
  rw [Nat.zero_add] at hyield
  obtain ⟨o', hyield', hreported⟩ := h.placed.exists_at (Handlers.nodup_placed hevents) hplaced
  obtain rfl := hyield.unique hyield'
  exact ⟨os, o, hos, hbody, ho, hyield, diagnostics_eq outcomes ▸ hreported, hyield.missing_iff,
    hyield.unknown_iff⟩

end

theorem diagnostics_declaration {c : Assembler.Call} {n : Node} (h : c.declaration.result = .ok n) :
    c.declaration.diagnostics = (c.handlers.compile c.component.props).diagnostics := by
  rcases Assembler.declaration_cases c with ⟨f, -, hfailed⟩ | ⟨-, g, hdeclaration⟩
  · rw [hfailed] at h
    cases h
  · rw [hdeclaration, Recorded.diagnostics_map, Recorded.diagnostics_map,
      (Assembler.methods_cases c).1]

theorem diagnostics_script [Machine] (g : Generator) (d : Document) :
    (g.script d).diagnostics = d.declaration.diagnostics := by
  unfold Generator.script
  cases h : d.declaration.result with
  | error f => rw [Recorded.bind_of_error h]
  | ok n =>
    rw [Recorded.bind_of_ok h]
    cases hprint : Script.print g.style n with
    | error f => exact List.append_nil _
    | ok v => exact List.append_nil _

section

variable [Machine] [Template.Renderer]

theorem exists_declaration {g : Generator} {files : FileTree} {d : Document} {code : String}
    (h : (g.generate files d).1 = .ok code) : ∃ n, d.declaration.result = .ok n := by
  unfold Generator.generate at h
  cases hscript : (g.script d).result with
  | error f =>
    dsimp only at h
    rw [hscript] at h
    cases h
  | ok script =>
    rw [Generator.script_eq] at hscript
    obtain ⟨n, hn, -⟩ := Result.bind_eq_ok.mp hscript
    exact ⟨n, hn⟩

/-- A component that is generated is reported with the diagnostics of its handlers as warnings. -/
theorem warnings_of_report {g : Generator} {files : FileTree} {d : Document} {r : Report}
    (h : (g.report files d).1 = .ok (.ok r)) :
    r.warnings = (d.handlers.compile d.component.props).diagnostics.map Diagnostic.text := by
  rw [Generator.report_eq] at h
  cases hcode : (g.generate files d).1 with
  | error f =>
    rw [hcode] at h
    cases f <;> cases h
  | ok code =>
    obtain ⟨n, hn⟩ := exists_declaration hcode
    have hdiagnostics : (g.script d).diagnostics =
        (d.handlers.compile d.component.props).diagnostics :=
      (diagnostics_script g d).trans
        (diagnostics_declaration (c := ⟨d.component, d.dependencies, _, d.handlers⟩) hn)
    rw [hcode, Generator.reported, hdiagnostics] at h
    cases hformat : g.format code with
    | error f =>
      rw [hformat] at h
      cases h
    | ok formatted =>
      rw [hformat] at h
      cases h
      rfl

/-- Every statement of convertible handlers is compiled or reported, and not both: what the
statements come to, in their order, makes up the bodies and the diagnostics. The places are those of
one statement each, and the diagnostics are the warnings of the generated component. -/
theorem compile_accounted {handlers : Handlers} (h : handlers.IsConvertible)
    (props : Entries PropDefinition) : ∃ outcomes, Accounts props handlers outcomes ∧
      handlers.compile props = ⟨outcomes.diagnostics, .ok outcomes.bodies⟩ ∧
      outcomes.bodies.keys = handlers.keys ∧
      (∀ event index s, handlers.Holds event index s → outcomes.SettledAt props event index s) ∧
      (handlers.placed.map (·.1)).Nodup ∧
      (∀ event event' index index', Handlers.place event index =
        Handlers.place event' index' → event = event' ∧ index = index') ∧
      ∀ (g : Generator) (files : FileTree) (d : Document) (r : Report), d.handlers = handlers →
        d.component.props = props → (g.report files d).1 = .ok (.ok r) →
          r.warnings = outcomes.diagnostics.map Diagnostic.text := by
  obtain ⟨outcomes, houtcomes⟩ := h.exists_accounts props
  refine ⟨outcomes, houtcomes, houtcomes.compile_eq,
    (keys_bodies outcomes).trans houtcomes.keys_eq, fun _ _ _ hs => houtcomes.settledAt h.events hs,
    Handlers.nodup_placed h.events, fun _ _ _ _ => Handlers.place_injective, ?_⟩
  rintro g files d r rfl rfl hr
  rw [warnings_of_report hr, houtcomes.compile_eq]

end

/-- Handlers of which the name of one event is the place of a statement of the other. -/
def lookalikes : Handlers := [
  (.str "a[0]", [.stateChange (.str "x") (.int 1), .propCall .null [], .propCall (.str "b") []]),
  (.str "a", [.propCall (.str "save") [.str "x"]])]

def savingProps : Entries PropDefinition := [(.str "save", ⟨.str "func", none, false⟩)]

theorem lookalikes_isConvertible : lookalikes.IsConvertible := by
  refine ⟨⟨["a[0]", "a"], rfl, by decide, fun _ _ => trivial⟩, ?_⟩
  have hchange : (Statement.stateChange (.str "x") (.int 1)).IsConvertible :=
    .stateChange _ ⟨_, rfl⟩
  have hnothing : (Statement.propCall .null []).IsConvertible := .propCall (.inl rfl) nofun
  have hundefined : (Statement.propCall (.str "b") []).IsConvertible :=
    .propCall (.inr ⟨_, rfl⟩) nofun
  have hdefined : (Statement.propCall (.str "save") [.str "x"]).IsConvertible :=
    .propCall (.inr ⟨_, rfl⟩) (List.forall_mem_singleton.mpr ⟨_, rfl⟩)
  simp [lookalikes, hchange, hnothing, hundefined, hdefined]

section

open Componentry.Program

theorem compile_accounted_lookalikes : lookalikes.IsConvertible ∧
    ∃ outcomes, Accounts savingProps lookalikes outcomes ∧
      outcomes.diagnostics = [.missingCall "a[0][1]", .unknownProp "b" "a[0][2]"] ∧
      outcomes.bodies.map (·.2.length) = [1, 1] := by
  obtain ⟨outcomes, haccounts, hcompile, -⟩ :=
    compile_accounted lookalikes_isConvertible savingProps
  obtain ⟨hdiagnostics, hbodies⟩ := Recorded.mk.inj hcompile
  refine ⟨lookalikes_isConvertible, outcomes, haccounts, hdiagnostics.symm, ?_⟩
  rw [← Except.ok.inj hbodies]
  rfl

end

end Componentry
