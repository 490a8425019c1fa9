import Componentry.Component.Handler
import Componentry.Proofs.Result

/-!
# What handlers report

Statements are compiled in the order in which they stand, event by event. Those that are left out
are reported on the way, until a statement fails; what stands behind it is not met any more.
-/

namespace Componentry

/-- What a statement reports at a place: it is left out there. -/
def Statement.reports (props : Entries PropDefinition) (location : String) :
    Statement → List Diagnostic
  | .stateChange _ _ => []
  | .propCall prop _ =>
    if !prop.truthy then [.missingCall location]
    else if prop.canBeKey && (props.find? prop).isNone then
      match prop.inserted with
      | .ok name => [.unknownProp name location]
      | .error _ => []
    else []

/-- A statement with the text of its place, which there may be none of. -/
abbrev Placed := Result String × Statement

namespace Placed

def compile (props : Entries PropDefinition) (x : Placed) : Recorded (Option Node) := do
  x.2.compile props (← x.1)

def reports (props : Entries PropDefinition) (x : Placed) : List Diagnostic :=
  match x.1 with
  | .ok location => x.2.reports props location
  | .error _ => []

end Placed

namespace Handlers

@[simp] theorem location_str (event : String) (index : Nat) :
    location (.str event) index = .ok (place event index) := rfl

/-- The statements of an event with their places, the first of which has the given index. -/
def placedFrom (event : Value) (index : Nat) : List Statement → List Placed
  | [] => []
  | s :: rest => (location event index, s) :: placedFrom event (index + 1) rest

/-- All statements with their places. -/
def placed : Handlers → List Placed
  | [] => []
  | (event, statements) :: rest => placedFrom event 0 statements ++ placed rest

end Handlers

section

variable {α β : Type} (props : Entries PropDefinition)

def Compiles (x : Placed) : Prop := ∃ o, (x.compile props).result = .ok o

def reports (xs : List Placed) : List Diagnostic := xs.flatMap (Placed.reports props)

theorem Handlers.compileBody_cons (event : Value) (index : Nat) (s : Statement)
    (rest : List Statement) : compileBody props event index (s :: rest) = (do
      let compiled ← Placed.compile props (location event index, s)
      let body ← compileBody props event (index + 1) rest
      return compiled.toList ++ body) := by
  rw [compileBody, ← Recorded.bind_assoc]
  rfl

theorem Statement.diagnostics_compile (location : String) (s : Statement) :
    (s.compile props location).diagnostics = s.reports props location := by
  cases s with
  | stateChange target value => rfl
  | propCall prop args =>
    rw [compile, reports]
    cases prop.truthy with
    | false => rfl
    | true =>
      cases prop.canBeKey with
      | false => rfl
      | true =>
        cases (props.find? prop).isNone with
        | true => cases prop.inserted <;> rfl
        | false =>
          change (Recorded.andThen (.lift (emission prop args)) _).diagnostics = []
          rw [Recorded.andThen]
          cases (Recorded.lift (emission prop args)).result <;> rfl

theorem Placed.diagnostics_compile (x : Placed) :
    (x.compile props).diagnostics = x.reports props := by
  obtain ⟨place, s⟩ := x
  cases place with
  | error f => rfl
  | ok location => exact Statement.diagnostics_compile props location s

variable {props}

/-- A statement that fails is not left out. -/
theorem Statement.reports_of_error {location : String} {s : Statement} {f : Failure}
    (h : (s.compile props location).result = .error f) : s.reports props location = [] := by
  cases s with
  | stateChange target value => rfl
  | propCall prop args =>
    rw [compile] at h
    rw [reports]
    cases htruthy : prop.truthy with
    | false =>
      rw [htruthy] at h
      cases h
    | true =>
      cases hkey : prop.canBeKey with
      | false => rfl
      | true =>
        cases hfind : (props.find? prop).isNone with
        | false => rfl
        | true =>
          cases hname : prop.inserted with
          | error e => rfl
          | ok name =>
            rw [htruthy, hkey, hfind, hname] at h
            cases h

theorem Placed.reports_of_error {x : Placed} {f : Failure}
    (h : (x.compile props).result = .error f) : x.reports props = [] := by
  obtain ⟨place, s⟩ := x
  cases place with
  | error e => rfl
  | ok location => exact Statement.reports_of_error h

theorem reports_append (xs ys : List Placed) :
    reports props (xs ++ ys) = reports props xs ++ reports props ys := List.flatMap_append

variable (props)

/-- An operation that compiles some statements one after the other: all of them, or those in front
of the first that fails. -/
inductive Traced : List Placed → Recorded α → Prop
  | completed {xs : List Placed} {m : Recorded α} {a : α} (hresult : m.result = .ok a)
    (hall : ∀ x ∈ xs, Compiles props x) (hdiagnostics : m.diagnostics = reports props xs) :
    Traced xs m
  | stopped {before after : List Placed} {x : Placed} {m : Recorded α}
    {f : Failure} (hbefore : ∀ y ∈ before, Compiles props y)
    (hx : (x.compile props).result = .error f) (hresult : m.result = .error f)
    (hdiagnostics : m.diagnostics = reports props before) : Traced (before ++ x :: after) m

variable {props}

theorem Traced.pure (a : α) : Traced props [] (Pure.pure a) := .completed rfl nofun rfl

theorem Traced.statement (x : Placed) : Traced props [x] (x.compile props) := by
  have hdiagnostics := x.diagnostics_compile props
  cases hresult : (x.compile props).result with
  | ok o =>
    refine .completed hresult (List.forall_mem_singleton.mpr ⟨o, hresult⟩) ?_
    rw [hdiagnostics, reports, List.flatMap_singleton]
  | error f =>
    rw [Placed.reports_of_error hresult] at hdiagnostics
    have hstopped : Traced props ([] ++ x :: []) (x.compile props) :=
      .stopped nofun hresult hresult hdiagnostics
    exact hstopped

theorem Traced.bind {xs ys : List Placed} {m : Recorded α} {k : α → Recorded β}
    (h : Traced props xs m) (hk : ∀ a, Traced props ys (k a)) :
    Traced props (xs ++ ys) (m >>= k) := by
  cases h with
  | @completed _ _ a hresult hall hdiagnostics =>
    rw [Recorded.bind_of_ok hresult, hdiagnostics]
    cases hk a with
    | completed hresult' hall' hdiagnostics' =>
      refine .completed hresult' (List.forall_mem_append.mpr ⟨hall, hall'⟩) ?_
      rw [hdiagnostics', reports_append]
    | @stopped before after x _ f hbefore hx hresult' hdiagnostics' =>
      rw [← List.append_assoc]
      refine .stopped (List.forall_mem_append.mpr ⟨hall, hbefore⟩) hx hresult' ?_
      rw [hdiagnostics', reports_append]
  | @stopped before after x _ f hbefore hx hresult hdiagnostics =>
    rw [Recorded.bind_of_error hresult, List.append_assoc]
    exact .stopped hbefore hx rfl hdiagnostics

theorem Traced.map {xs : List Placed} {m : Recorded α} (h : Traced props xs m)
    (g : α → β) : Traced props xs (do return g (← m)) := by
  rw [← List.append_nil xs]
  exact h.bind fun a => .pure (g a)

theorem traced_compileBody (event : Value) (index : Nat) (statements : List Statement) :
    Traced props (Handlers.placedFrom event index statements)
      (Handlers.compileBody props event index statements) := by
  induction statements generalizing index with
  | nil => exact .pure []
  | cons s rest ih =>
    rw [Handlers.compileBody_cons]
    exact (Traced.statement (Handlers.location event index, s)).bind fun compiled =>
      (ih (index + 1)).map fun body => compiled.toList ++ body

theorem traced_compile (handlers : Handlers) :
    Traced props handlers.placed (handlers.compile props) := by
  induction handlers with
  | nil => exact .pure []
  | cons e rest ih =>
    exact (traced_compileBody e.1 0 e.2).bind fun body => ih.map fun bodies => (e.1, body) :: bodies

/-- There is one first statement that fails. -/
theorem first_unique {before before' after after' : List Placed}
    {x x' : Placed} (h : before ++ x :: after = before' ++ x' :: after')
    (hbefore : ∀ y ∈ before, Compiles props y) (hx : ¬ Compiles props x)
    (hbefore' : ∀ y ∈ before', Compiles props y) (hx' : ¬ Compiles props x') :
    before = before' ∧ x = x' := by
  induction before generalizing before' with
  | nil =>
    cases before' with
    | nil => exact ⟨rfl, (List.cons.inj h).1⟩
    | cons y before' =>
      obtain rfl : x = y := (List.cons.inj h).1
      exact absurd (hbefore' x List.mem_cons_self) hx
  | cons y before ih =>
    cases before' with
    | nil =>
      obtain rfl : y = x' := (List.cons.inj h).1
      exact absurd (hbefore y List.mem_cons_self) hx'
    | cons z before' =>
      obtain ⟨rfl, hrest⟩ := List.cons.inj h
      obtain ⟨rfl, rfl⟩ := ih hrest (fun w hw => hbefore w (List.mem_cons_of_mem y hw))
        fun w hw => hbefore' w (List.mem_cons_of_mem y hw)
      exact ⟨rfl, rfl⟩

theorem Traced.diagnostics_of_ok {xs : List Placed} {m : Recorded α} {a : α}
    (h : Traced props xs m) (ha : m.result = .ok a) : m.diagnostics = reports props xs := by
  cases h with
  | completed hresult hall hdiagnostics => exact hdiagnostics
  | stopped hbefore hx hresult hdiagnostics =>
    rw [hresult] at ha
    cases ha

theorem not_compiles {x : Placed} {f : Failure}
    (h : (x.compile props).result = .error f) : ¬ Compiles props x := by
  rintro ⟨o, ho⟩
  rw [h] at ho
  cases ho

theorem Traced.stopped_at {xs before after : List Placed} {x : Placed}
    {m : Recorded α} {f : Failure} (h : Traced props xs m) (hxs : xs = before ++ x :: after)
    (hbefore : ∀ y ∈ before, Compiles props y) (hx : (x.compile props).result = .error f) :
    m.result = .error f ∧ m.diagnostics = reports props before := by
  cases h with
  | completed hresult hall hdiagnostics =>
    have hmem : x ∈ xs := hxs ▸ List.mem_append_cons_self
    exact absurd (hall x hmem) (not_compiles hx)
  | stopped hbefore' hx' hresult hdiagnostics =>
    obtain ⟨rfl, rfl⟩ :=
      first_unique hxs hbefore' (not_compiles hx') hbefore (not_compiles hx)
    obtain rfl := Except.error.inj (hx'.symm.trans hx)
    exact ⟨hresult, hdiagnostics⟩

end

end Componentry
