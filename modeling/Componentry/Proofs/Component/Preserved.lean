import Componentry.Proofs.Component.Declared
import Componentry.Proofs.Component.Evaluated

/-!
# Compiled handlers do what the handlers say

A literal comes to the datum of its value. A compiled statement therefore
does to any run what the statement does, and a statement that is left out does nothing; by induction
the same holds of a whole body, in which later statements see what earlier ones stored.
-/

namespace Componentry

open Script (Vocabulary Assembled)

variable {voc : Vocabulary}

theorem run_assignment {k : String} {n : Node} {r : Run} {d : Datum}
    (h : Script.evaluate .object r.fields n = some d) :
    Script.run r (.expressionStatement
      (.assignmentExpression (.str "=") (.thisMember (.str k)) n)) = some (r.store k d) := by
  simp [Script.run, Script.field?, Node.thisMember, h]

theorem run_emission {args : List Value} {ns : List Node}
    (h : List.Forall₂ (ComesTo id id .object) args ns) (name : String) (r : Run) :
    Script.run r (.expressionStatement (.callExpression (.thisMember (.str emitMethod))
      (.stringLiteral (.str name) :: ns))) = some (r.emit name (dataOfItems id .object args)) := by
  have hname : Script.evaluate .object r.fields (.stringLiteral (.str name)) = some (.text name) :=
    rfl
  have hargs := evaluateAll_of_forall₂ h r.fields
  rw [List.map_id] at hargs
  simp [Script.run, Script.field?, Node.thisMember, Script.evaluateAll, hname, hargs]

theorem runAll_singleton (r : Run) (n : Node) : Script.runAll [n] r = Script.run r n := by
  simp [Script.runAll]

theorem Statement.IsPlain.run_compileStatement {s : Statement} (h : s.IsPlain voc)
    (props : Entries PropDefinition) (location : String) :
    ∃ o, (s.compile props location).result = .ok o ∧
      ∀ r, Script.runAll o.toList r = some (perform props r s) := by
  cases h with
  | @stateChange k v hk hv =>
    cases htoggle : isToggle v with
    | true =>
      refine ⟨_, compile_stateChange props location (assignment_toggle htoggle), ?_⟩
      intro r
      -- the field is read before it is stored to
      have hfield : Script.evaluate .object r.fields (.unaryExpression (.str "!")
          (.thisMember (.str k))) = some (.bool (!(r.fields k).truthy)) := rfl
      rw [Option.toList_some, runAll_singleton, run_assignment hfield, perform, if_pos htoggle]
    | false =>
      obtain ⟨n, hn, hdatum⟩ := hv.comesTo renames_id
      refine ⟨_, compile_stateChange props location (assignment_literal htoggle hn), ?_⟩
      intro r
      have hright : Script.evaluate .object r.fields n = some (v.datum id .object) :=
        hdatum r.fields
      rw [Option.toList_some, runAll_singleton, run_assignment hright, perform, htoggle,
        if_neg Bool.false_ne_true]
  | @propCall p args hp hargs =>
    rcases hp with rfl | ⟨name, rfl⟩
    · exact ⟨none, compile_missing props location args, fun r => rfl⟩
    obtain ⟨ns, hns, hdata⟩ := literalItems_ok fun v hv => (hargs v hv).comesTo renames_id
    rw [compile_propCall, emission_ok hns]
    simp only [perform]
    split_ifs
    · refine ⟨_, rfl, ?_⟩
      intro r
      rw [Option.toList_some, runAll_singleton, run_emission hdata]
    · exact ⟨none, rfl, fun r => rfl⟩

theorem run_compileBody {statements : List Statement} (h : ∀ s ∈ statements, s.IsPlain voc)
    (props : Entries PropDefinition) (event : String) (index : Nat) :
    ∃ body, (Handlers.compileBody props (.str event) index statements).result = .ok body ∧
      ∀ r, Script.runAll body r = some (Statement.performAll props statements r) := by
  induction statements generalizing index with
  | nil => exact ⟨[], rfl, fun r => rfl⟩
  | cons s statements ih =>
    obtain ⟨o, ho, hrun⟩ := (h s List.mem_cons_self).run_compileStatement props
      (Handlers.place event index)
    obtain ⟨body, hbody, hrest⟩ := ih (fun t ht => h t (List.mem_cons_of_mem s ht)) (index + 1)
    refine ⟨o.toList ++ body, by simp [Handlers.compileBody, ho, hbody], fun r => ?_⟩
    have hfirst := hrun r
    have hthen := hrest (s.perform props r)
    rw [Script.runAll] at hfirst hthen ⊢
    rw [List.foldlM_append, hfirst, Option.bind_eq_bind, Option.bind_some, hthen]
    rfl

/-- Every event is handled as its statements say: run after run, the compiled body leaves the same
data in the fields and emits the same events as the statements do. -/
theorem Handlers.IsPlain.run_compile {handlers : Handlers} (h : Handlers.IsPlain voc handlers)
    (props : Entries PropDefinition) :
    ∃ bodies, (handlers.compile props).result = .ok bodies ∧
      List.Forall₂ (fun e b => b.1 = e.1 ∧
        ∀ r, Script.runAll b.2 r = some (Statement.performAll props e.2 r)) handlers bodies := by
  induction handlers with
  | nil => exact ⟨[], rfl, .nil⟩
  | cons e handlers ih =>
    obtain ⟨hevents, k, hk, -, -⟩ := h.events.cons
    obtain ⟨he, hstatements⟩ := List.forall_mem_cons.mp h.statements
    obtain ⟨event, statements⟩ := e
    cases hk
    obtain ⟨body, hbody, hrun⟩ := run_compileBody he props k 0
    obtain ⟨bodies, hbodies, hrest⟩ := ih ⟨hevents, hstatements⟩
    exact ⟨(.str k, body) :: bodies, by simp [Handlers.compile, hbody, hbodies],
      .cons ⟨rfl, hrun⟩ hrest⟩

def unrestricted : Vocabulary where
  number _ := True
  name _ := True
  component _ := True
  options _ _ := trivial

/-- The statements of an event that stores a list, toggles the field, and calls a prop. -/
def pressed : List Statement := [
  .stateChange (.str "open") (.list [.int 1]), .stateChange (.str "open") (.str toggleMark),
  .propCall (.str "save") [.null]]

theorem run_compile_pressed :
    ∃ bodies, (Handlers.compile [(.str "save", default)] [(.str "press", pressed)]).result =
        .ok bodies ∧
      List.Forall₂ (fun (e : Value × List Statement) (b : Value × List Node) => b.1 = e.1 ∧
          ∀ r, Script.runAll b.2 r =
            some (Statement.performAll [(.str "save", default)] e.2 r))
        [(.str "press", pressed)] bodies := by
  refine @Handlers.IsPlain.run_compile unrestricted _
    ⟨⟨["press"], rfl, by decide, fun _ _ => trivial⟩, ?_⟩ _
  rw [List.forall_mem_singleton, pressed]
  simp only [List.forall_mem_cons]
  refine ⟨.stateChange trivial (.list ?_), .stateChange trivial (.str _),
    .propCall (Or.inr ⟨_, rfl⟩) ?_, nofun⟩
  · simpa using .int trivial
  · simpa using .null

end Componentry
