import Componentry.Proofs.Component.Accounted

/-!
# Events that do not affect each other

All events of a component share one list of diagnostics and are compiled against the same props.
What an event is compiled to, and what is reported at its statements, still depends on nothing but
its own statements and the names of the props.
-/

namespace Componentry

/-- A diagnostic is located at a statement of an event. -/
def Diagnostic.standsAt (event : String) (d : Diagnostic) : Bool :=
  d.location.any fun place => place = Handlers.place event (Handlers.indexOf place)

theorem Diagnostic.standsAt_iff {event : String} {d : Diagnostic} : d.standsAt event = true ↔
    ∃ index, d.location = some (Handlers.place event index) := by
  rw [standsAt, Option.any_eq_true]
  constructor
  · rintro ⟨place, hlocation, hplace⟩
    exact ⟨_, hlocation.trans (congrArg some (of_decide_eq_true hplace))⟩
  · rintro ⟨index, hlocation⟩
    refine ⟨_, hlocation, decide_eq_true ?_⟩
    rw [Handlers.indexOf_place]

section

variable {props props' : Entries PropDefinition}

/-- The same names are defined, whatever the definitions are. -/
def SameNames (props props' : Entries PropDefinition) : Prop :=
  ∀ name : String, .str name ∈ props.keys ↔ .str name ∈ props'.keys

theorem Statement.Yields.congr (hnames : SameNames props props') {location : String}
    {s : Statement} {o : Outcome} (h : s.Yields props location o) :
    s.Yields props' location o := by
  cases h with
  | assigned hn => exact .assigned hn
  | emitted hname hprop hn => exact .emitted hname ((hnames _).mp hprop) hn
  | missing args hprop => exact .missing args hprop
  | unknown args hname hprop => exact .unknown args hname (mt (hnames _).mpr hprop)

theorem YieldAll.unique (hnames : SameNames props props') {xs : List Placed}
    {os os' : List Outcome} (h : YieldAll props xs os) (h' : YieldAll props' xs os') :
    os = os' := by
  induction h generalizing os' with
  | nil =>
    cases h'
    rfl
  | cons hx _ ih =>
    cases h' with
    | cons hx' hrest' =>
      obtain ⟨place, hplace, hx⟩ := hx
      obtain ⟨place', hplace', hx'⟩ := hx'
      obtain rfl : place = place' := Except.ok.inj (hplace.symm.trans hplace')
      rw [(hx.congr hnames).unique hx', ih hrest']

theorem YieldAll.filter_standsAt {event : String} {index : Nat} {statements : List Statement}
    {os : List Outcome}
    (h : YieldAll props (Handlers.placedFrom (.str event) index statements) os) (other : String) :
    (Outcomes.reported os).filter (·.standsAt other) =
      if event = other then Outcomes.reported os else [] := by
  have hlocation : ∀ d ∈ Outcomes.reported os,
      ∃ i, d.location = some (Handlers.place event i) := by
    intro d hd
    obtain ⟨o, ho, hright⟩ := List.mem_filterMap.mp hd
    obtain ⟨x, hx, place, hplace, hyields⟩ := exists_of_forall₂ h o ho
    obtain ⟨i, -, hx⟩ := Handlers.mem_placedFrom_iff.mp hx
    obtain rfl := Except.ok.inj (hplace.symm.trans hx)
    exact ⟨_, hyields.location_eq d (Option.mem_toList.mpr hright)⟩
  split_ifs with hother
  · exact List.filter_eq_self.mpr fun d hd => Diagnostic.standsAt_iff.mpr (hother ▸ hlocation d hd)
  · refine List.filter_eq_nil_iff.mpr fun d hd hstands => ?_
    obtain ⟨i, hi⟩ := hlocation d hd
    obtain ⟨j, hj⟩ := Diagnostic.standsAt_iff.mp hstands
    exact hother (Handlers.place_injective (Option.some.inj (hi.symm.trans hj))).1

/-- The diagnostics at an event are those that its own statements come to. -/
theorem Accounts.filter_standsAt {handlers : Handlers} {outcomes : Outcomes}
    (h : Accounts props handlers outcomes) (hevents : Entries.IsPlain written handlers)
    (event : String) : outcomes.diagnostics.filter (·.standsAt event) =
      ((outcomes.get? event).map Outcomes.reported).getD [] := by
  induction h with
  | nil => rfl
  | @cons e f rest outcomes he hrest ih =>
    obtain ⟨key, statements⟩ := e
    obtain ⟨key', os⟩ := f
    obtain ⟨rfl, hos⟩ := he
    obtain ⟨hothers, k, rfl, -, hfresh⟩ := hevents.cons
    have hcons : Outcomes.diagnostics ((.str k, os) :: outcomes) =
        Outcomes.reported os ++ Outcomes.diagnostics outcomes := rfl
    rw [hcons, List.filter_append, hos.filter_standsAt, ih hothers, Entries.get?_cons_str]
    split_ifs with hk
    · -- no other entry is for this event
      have hkeys : Entries.keys outcomes = Entries.keys rest := Accounts.keys_eq hrest
      rw [Entries.get?_of_not_mem (hk ▸ hkeys ▸ hfresh)]
      exact List.append_nil _
    · rfl

theorem Accounts.get?_unique {handlers handlers' : Handlers} {outcomes outcomes' : Outcomes}
    (h : Accounts props handlers outcomes) (h' : Accounts props' handlers' outcomes')
    (hnames : SameNames props props') {event : String}
    (hevent : handlers.get? event = handlers'.get? event) :
    outcomes.get? event = outcomes'.get? event := by
  have hrel := h.rel_get? event
  have hrel' := h'.rel_get? event
  rw [← hevent] at hrel'
  generalize outcomes.get? event = found at hrel
  generalize outcomes'.get? event = found' at hrel'
  generalize handlers.get? event = statements at hrel hrel'
  cases hrel with
  | none =>
    cases hrel'
    rfl
  | some hyields =>
    cases hrel' with
    | some hyields' => rw [hyields.unique hnames hyields']

end

/-- Two components that have the same statements for an event, and props of the same names, have the
same body for it and the same diagnostics at it. -/
theorem compile_separate {handlers handlers' : Handlers} {props props' : Entries PropDefinition}
    (h : handlers.IsConvertible) (h' : handlers'.IsConvertible) (hnames : SameNames props props')
    {event : String} (hevent : handlers.get? event = handlers'.get? event) :
    ∃ bodies bodies', (handlers.compile props).result = .ok bodies ∧
      (handlers'.compile props').result = .ok bodies' ∧ bodies.get? event = bodies'.get? event ∧
      (handlers.compile props).diagnostics.filter (·.standsAt event) =
        (handlers'.compile props').diagnostics.filter (·.standsAt event) := by
  obtain ⟨outcomes, haccounts⟩ := h.exists_accounts props
  obtain ⟨outcomes', haccounts'⟩ := h'.exists_accounts props'
  have hsame := haccounts.get?_unique haccounts' hnames hevent
  rw [haccounts.compile_eq, haccounts'.compile_eq]
  refine ⟨outcomes.bodies, outcomes'.bodies, rfl, rfl, ?_, ?_⟩
  · rw [get?_bodies, get?_bodies, hsame]
  · rw [haccounts.filter_standsAt h.events, haccounts'.filter_standsAt h'.events, hsame]

def requiredProps : Entries PropDefinition := [(.str "save", ⟨.str "string", some .null, true⟩)]

theorem compile_separate_lookalikes :
    Handlers.IsConvertible lookalikes.reverse ∧ SameNames savingProps requiredProps ∧
    lookalikes.get? "a[0]" = Entries.get? lookalikes.reverse "a[0]" ∧
    ∃ bodies bodies', (lookalikes.compile savingProps).result = .ok bodies ∧
      (Handlers.compile requiredProps lookalikes.reverse).result = .ok bodies' ∧
      bodies.get? "a[0]" = bodies'.get? "a[0]" ∧
      (lookalikes.compile savingProps).diagnostics.filter (·.standsAt "a[0]") =
        (Handlers.compile requiredProps lookalikes.reverse).diagnostics.filter
          (·.standsAt "a[0]") := by
  have hreversed : Handlers.IsConvertible lookalikes.reverse :=
    ⟨⟨["a", "a[0]"], rfl, by decide, fun _ _ => trivial⟩,
      fun e he => lookalikes_isConvertible.statements e (List.mem_reverse.mp he)⟩
  have hnames : SameNames savingProps requiredProps := fun _ => Iff.rfl
  exact ⟨hreversed, hnames, rfl,
    compile_separate lookalikes_isConvertible hreversed hnames rfl⟩

end Componentry
