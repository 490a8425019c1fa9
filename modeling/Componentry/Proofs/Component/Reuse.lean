import Componentry.Component.Assembler
import Componentry.Proofs.Component.Reported
import Mathlib.Tactic.SplitIfs

/-!
# An assembler that is used again

What an assembler has in its log does not count for the components that it declares, and each call
adds to the log what the same call adds to an empty one. A call that fails before its handlers are
compiled adds nothing, and one that fails at a statement adds what the statements before it report.
-/

namespace Componentry

namespace Assembler

variable {α β : Type}

/-- An operation gives what a recorded one gives, and puts its diagnostics behind the log. -/
def Simulates (p : Assembly α) (m : Recorded α) : Prop :=
  ∀ a : Assembler, p.run.run a = (m.result, ⟨a.diagnostics ++ m.diagnostics⟩)

theorem simulates_pure (x : α) : Simulates (pure x) (pure x) := by
  intro a
  change (Except.ok x, a) = (_, ⟨a.diagnostics ++ []⟩)
  rw [List.append_nil]
  rfl

theorem simulates_lift (r : Result α) : Simulates (liftM r) (Recorded.lift r) := by
  intro a
  change (r, a) = (_, ⟨a.diagnostics ++ []⟩)
  rw [List.append_nil]
  rfl

theorem simulates_warn (d : Diagnostic) : Simulates (warn d) (Recorded.record d) := fun _ => rfl

/-- What an operation does next, by the result and the log of its first step. -/
def next (q : α → Assembly β) : Result α × Assembler → Result β × Assembler
  | (.ok x, a) => (q x).run.run a
  | (.error f, a) => (.error f, a)

theorem run_bind (p : Assembly α) (q : α → Assembly β) (a : Assembler) :
    (p >>= q).run.run a = next q (p.run.run a) := by
  change (match p.run.run a with | (x, a') => ExceptT.bindCont q x a') = _
  rcases p.run.run a with ⟨x | x, a'⟩ <;> rfl

theorem Simulates.bind {p : Assembly α} {m : Recorded α} {q : α → Assembly β}
    {k : α → Recorded β} (h : Simulates p m) (hk : ∀ x, Simulates (q x) (k x)) :
    Simulates (p >>= q) (m >>= k) := by
  intro a
  change _ = ((m.andThen k).result, Assembler.mk (a.diagnostics ++ (m.andThen k).diagnostics))
  rw [run_bind, h a, Recorded.andThen]
  cases hm : m.result with
  | error f => rfl
  | ok x =>
    rw [next, hk x]
    simp only [List.append_assoc]

section

variable (props : Entries PropDefinition)

theorem simulates_statement (location : String) (s : Statement) :
    Simulates (statement props location s) (s.compile props location) := by
  cases s with
  | stateChange target value =>
    rw [statement, Statement.compile, Recorded.lift_bind]
    exact (simulates_lift _).bind fun n => simulates_pure _
  | propCall prop args =>
    rw [statement, Statement.compile]
    split_ifs
    · exact (simulates_warn _).bind fun _ => simulates_pure _
    · exact simulates_lift _
    · exact (simulates_lift _).bind fun _ => (simulates_warn _).bind fun _ => simulates_pure _
    · exact (simulates_lift _).bind fun n => simulates_pure _

theorem simulates_body (event : Value) (index : Nat) (statements : List Statement) :
    Simulates (body props event index statements)
      (Handlers.compileBody props event index statements) := by
  induction statements generalizing index with
  | nil => exact simulates_pure _
  | cons s rest ih =>
    exact (simulates_lift _).bind fun location => (simulates_statement props location s).bind
      fun _ => (ih (index + 1)).bind fun _ => simulates_pure _

theorem simulates_bodies (handlers : Handlers) :
    Simulates (bodies props handlers) (handlers.compile props) := by
  induction handlers with
  | nil => exact simulates_pure _
  | cons e rest ih =>
    exact (simulates_body props e.1 0 e.2).bind fun _ => ih.bind fun _ => simulates_pure _

end

theorem simulates_optional (present : Bool) {p : Assembly Node} {m : Recorded Node}
    (h : Simulates p m) : Simulates (optional present p) (Component.optional present m) := by
  rw [optional, Component.optional]
  split_ifs
  · exact h.bind fun _ => simulates_pure _
  · exact simulates_pure _

theorem simulates_members (c : Call) :
    Simulates (members c) (c.component.members c.dependencies c.data c.handlers) := by
  rw [members, Component.members]
  refine (simulates_optional _ ?_).bind fun props => ?_
  · rw [Recorded.lift_bind]
    refine (simulates_lift _).bind fun es => ?_
    rw [Recorded.lift_bind]
    exact (simulates_lift _).bind fun ms => simulates_pure _
  refine (simulates_optional _ ?_).bind fun components => ?_
  · rw [Recorded.lift_bind]
    exact (simulates_lift _).bind fun n => simulates_pure _
  refine (simulates_optional _ (simulates_lift _)).bind fun data => ?_
  refine (simulates_optional _ ?_).bind fun methods => simulates_pure _
  refine (simulates_bodies _ _).bind fun compiled => ?_
  exact (simulates_lift _).bind fun ms => simulates_pure _

/-- The declaration that a call asks for, with its diagnostics. -/
def Call.declaration (c : Call) : Recorded Node :=
  c.component.declaration c.dependencies c.data c.handlers

theorem call_eq (a : Assembler) (c : Call) :
    a.call c = (c.declaration.result, ⟨a.diagnostics ++ c.declaration.diagnostics⟩) :=
  ((simulates_members c).bind fun _ => simulates_pure _) a

namespace Call

def propsOption (c : Call) : Result Node := do
  return Component.option "props" (.objectExpression
    (← literalMembers (← PropDefinition.descriptors c.component.props)))

def componentsOption (c : Call) : Result Node := do
  return Component.option "components" (← Component.usedComponents c.dependencies)

def methodsOption (c : Call) : Recorded Node := do
  let bodies ← c.handlers.compile c.component.props
  return Component.option "methods" (.objectExpression (← Component.methods bodies))

/-- What comes before the handlers: the props, the dependencies and the data. -/
def checked (c : Call) : Result Unit := do
  let _ ← c.propsOption
  let _ ← c.componentsOption
  if c.data.truthy then
    let _ ← Component.dataMethod c.data

/-- Why a call fails, and what it has reported by then. -/
inductive Stops (c : Call) : Failure → List Diagnostic → Prop
  | unchecked {f : Failure} (h : c.checked = .error f) : Stops c f []
  | statement {before after : List Placed} {x : Placed} {f : Failure}
    (hchecked : c.checked = .ok ()) (hplaced : c.handlers.placed = before ++ x :: after)
    (hbefore : ∀ y ∈ before, Compiles c.component.props y)
    (hx : (x.compile c.component.props).result = .error f) :
    Stops c f (reports c.component.props before)
  | event {bodies : Entries (List Node)} {f : Failure} (hchecked : c.checked = .ok ())
    (hbodies : (c.handlers.compile c.component.props).result = .ok bodies)
    (hmethods : Component.methods bodies = .error f) :
    Stops c f (reports c.component.props c.handlers.placed)

end Call

theorem optional_lift_error {present : Bool} {r : Result Node} {f : Failure} (h : r = .error f)
    (hpresent : present = false → ∃ n, r = .ok n) :
    Component.optional present (.lift r) = ⟨[], .error f⟩ := by
  cases present with
  | true =>
    rw [h]
    rfl
  | false =>
    obtain ⟨n, hn⟩ := hpresent rfl
    rw [h] at hn
    cases hn

theorem optional_lift_ok (present : Bool) (n : Node) :
    ∃ ns, Component.optional present (.lift (.ok n)) = ⟨[], .ok ns⟩ := by
  cases present with
  | false => exact ⟨[], rfl⟩
  | true => exact ⟨[n], rfl⟩

section

variable (c : Call)

theorem propsOption_of_isEmpty (h : (!c.component.props.isEmpty) = false) :
    ∃ n, c.propsOption = .ok n := by
  rw [Bool.not_eq_false', List.isEmpty_iff] at h
  rw [Call.propsOption, h]
  exact ⟨_, rfl⟩

theorem componentsOption_of_isEmpty (h : (!c.dependencies.isEmpty) = false) :
    ∃ n, c.componentsOption = .ok n := by
  rw [Bool.not_eq_false', List.isEmpty_iff] at h
  rw [Call.componentsOption, h]
  exact ⟨_, rfl⟩

theorem declaration_eq : c.declaration = (do
    let props ← Component.optional (!c.component.props.isEmpty) (.lift c.propsOption)
    let components ← Component.optional (!c.dependencies.isEmpty) (.lift c.componentsOption)
    let data ← Component.optional c.data.truthy (.lift (Component.dataMethod c.data))
    let methods ← Component.optional (!c.handlers.isEmpty) c.methodsOption
    return Component.option "name" (.stringLiteral c.component.name) ::
      (props ++ components ++ data ++ methods)) >>= fun ms =>
        pure (.exportDefault (.objectExpression ms)) := rfl

/-- A call fails before its handlers without a report, or it gets to its handlers, and then it ends
as they do. -/
theorem declaration_cases :
    (∃ f, c.checked = .error f ∧ c.declaration = ⟨[], .error f⟩) ∨
      c.checked = .ok () ∧ ∃ g : List Node → List Node, c.declaration = (do
        return g (← Component.optional (!c.handlers.isEmpty) c.methodsOption)) >>= fun ms =>
          pure (.exportDefault (.objectExpression ms)) := by
  rw [declaration_eq, Call.checked]
  cases hprops : c.propsOption with
  | error f =>
    refine .inl ⟨f, rfl, ?_⟩
    rw [optional_lift_error rfl fun hempty => hprops ▸ propsOption_of_isEmpty c hempty]
    rfl
  | ok p =>
    obtain ⟨props, hprops⟩ := optional_lift_ok (!c.component.props.isEmpty) p
    rw [hprops, Recorded.ok_bind]
    cases hcomponents : c.componentsOption with
    | error f =>
      refine .inl ⟨f, rfl, ?_⟩
      rw [optional_lift_error rfl fun hempty =>
        hcomponents ▸ componentsOption_of_isEmpty c hempty]
      rfl
    | ok u =>
      obtain ⟨components, hcomponents⟩ := optional_lift_ok (!c.dependencies.isEmpty) u
      rw [hcomponents, Recorded.ok_bind]
      cases htruthy : c.data.truthy with
      | false => exact .inr ⟨rfl, fun methods => _, rfl⟩
      | true =>
        cases hdata : Component.dataMethod c.data with
        | error f => exact .inl ⟨f, rfl, rfl⟩
        | ok s => exact .inr ⟨rfl, fun methods => _, rfl⟩

/-- The methods are there just if there are handlers, but without any they add nothing anyway. -/
theorem methods_cases :
    (Component.optional (!c.handlers.isEmpty) c.methodsOption).diagnostics =
        (c.handlers.compile c.component.props).diagnostics ∧
      ∀ f, (Component.optional (!c.handlers.isEmpty) c.methodsOption).result = .error f ↔
        (c.handlers.compile c.component.props).result >>= Component.methods = .error f := by
  cases hempty : c.handlers.isEmpty with
  | true =>
    rw [List.isEmpty_iff.mp hempty]
    exact ⟨rfl, fun f => Iff.rfl⟩
  | false =>
    have hoption : Component.optional (!false) c.methodsOption =
        (c.handlers.compile c.component.props >>= fun bodies =>
          Recorded.lift (Component.methods bodies) >>= fun ms =>
            pure (Component.option "methods" (.objectExpression ms))) >>= fun n => pure [n] := rfl
    rw [hoption]
    cases hcompile : (c.handlers.compile c.component.props).result with
    | error f =>
      rw [Recorded.bind_of_error hcompile]
      exact ⟨rfl, fun f => ⟨id, id⟩⟩
    | ok bodies =>
      rw [Recorded.bind_of_ok hcompile, Result.ok_bind]
      cases Component.methods bodies with
      | error f => exact ⟨List.append_nil _, fun _ => ⟨id, id⟩⟩
      | ok ms =>
        refine ⟨?_, fun _ => ⟨nofun, nofun⟩⟩
        rw [Recorded.diagnostics_map]
        exact List.append_nil _

/-- A call fails just for one of the reasons there are, and reports what belongs to it. -/
theorem declaration_error_iff (f : Failure) (ds : List Diagnostic) :
    c.declaration = ⟨ds, .error f⟩ ↔ c.Stops f ds := by
  rcases declaration_cases c with ⟨e, hchecked, hdeclaration⟩ | ⟨hchecked, g, hdeclaration⟩
  · constructor
    · intro h
      rw [hdeclaration] at h
      cases h
      exact .unchecked hchecked
    · intro h
      cases h with
      | unchecked h =>
        rw [hdeclaration, Except.error.inj (hchecked.symm.trans h)]
      | statement h =>
        rw [hchecked] at h
        cases h
      | event h =>
        rw [hchecked] at h
        cases h
  · have htraced : Traced c.component.props c.handlers.placed _ := traced_compile c.handlers
    obtain ⟨hreported, hfailed⟩ := methods_cases c
    have hdiagnostics : c.declaration.diagnostics =
        (c.handlers.compile c.component.props).diagnostics := by
      rw [hdeclaration, Recorded.diagnostics_map, Recorded.diagnostics_map, hreported]
    have hresult : c.declaration.result = .error f ↔
        (c.handlers.compile c.component.props).result >>= Component.methods = .error f := by
      rw [hdeclaration, Recorded.result_map_eq_error, Recorded.result_map_eq_error, hfailed]
    constructor
    · intro h
      have hf := hresult.mp (congrArg Recorded.result h)
      obtain rfl : (c.handlers.compile c.component.props).diagnostics = ds :=
        hdiagnostics.symm.trans (congrArg Recorded.diagnostics h)
      generalize hplaced : c.handlers.placed = xs at htraced
      cases htraced with
      | completed hbodies hall hdiagnostics =>
        rw [hbodies] at hf
        rw [hdiagnostics, ← hplaced]
        exact .event hchecked hbodies hf
      | stopped hbefore hx hstopped hdiagnostics =>
        rw [hstopped] at hf
        obtain rfl := Except.error.inj hf
        rw [hdiagnostics]
        exact .statement hchecked hplaced hbefore hx
    · have heta : c.declaration = ⟨c.declaration.diagnostics, c.declaration.result⟩ := rfl
      intro h
      cases h with
      | unchecked h =>
        rw [hchecked] at h
        cases h
      | statement _ hplaced hbefore hx =>
        obtain ⟨hstopped, hbehind⟩ := htraced.stopped_at hplaced hbefore hx
        rw [heta, hdiagnostics, hbehind, hresult.mpr (by rw [hstopped]; rfl)]
      | event _ hbodies hmethods =>
        rw [heta, hdiagnostics, htraced.diagnostics_of_ok hbodies,
          hresult.mpr (by rw [hbodies]; exact hmethods)]

end

theorem fresh_call_eq_iff (c : Call) (f : Failure) (ds : List Diagnostic) :
    fresh.call c = (.error f, ⟨ds⟩) ↔ c.Stops f ds := by
  rw [call_eq, ← declaration_error_iff]
  constructor
  · intro h
    obtain ⟨hresult, hlog⟩ := Prod.mk.inj h
    have hds : c.declaration.diagnostics = ds := Assembler.mk.inj hlog
    have heta : c.declaration = ⟨c.declaration.diagnostics, c.declaration.result⟩ := rfl
    rw [heta, hds, hresult]
  · intro h
    rw [h]
    rfl

/-- Each call gives what it gives on an assembler that was not used before, and puts behind the log
what it puts there. -/
theorem calls_eq (a : Assembler) (cs : List Call) :
    a.calls cs = (cs.map fun c => (fresh.call c).1,
      ⟨a.diagnostics ++ cs.flatMap fun c => (fresh.call c).2.diagnostics⟩) := by
  induction cs generalizing a with
  | nil =>
    rw [List.flatMap_nil, List.append_nil]
    rfl
  | cons c cs ih =>
    rw [calls, call_eq]
    dsimp only
    rw [ih, List.map_cons, List.flatMap_cons, call_eq]
    simp only [fresh, List.nil_append, List.append_assoc]

/-- An assembler that is used again is as good as a new one for each call: the results are those of
new assemblers, and the log is what they would have logged, one behind the other. A call that fails
before its handlers has logged nothing, and one that fails at a statement has logged what the
statements before it report. -/
theorem calls_reused (a : Assembler) (cs : List Call) :
    (a.calls cs).1 = cs.map (fun c => (fresh.call c).1) ∧
      (a.calls cs).2.diagnostics =
        a.diagnostics ++ cs.flatMap (fun c => (fresh.call c).2.diagnostics) ∧
      ∀ c f ds, fresh.call c = (.error f, ⟨ds⟩) ↔ c.Stops f ds := by
  rw [calls_eq]
  exact ⟨rfl, rfl, fresh_call_eq_iff⟩

end Assembler

end Componentry
