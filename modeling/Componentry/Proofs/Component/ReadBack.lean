import Componentry.Program.Machine
import Componentry.Proofs.Component.Declared
import Componentry.Proofs.Script.Roomy

/-!
# Printing a component loses nothing

The printed declaration of a plain component whose numbers are whole and whose names hold no line
feed is read back as that declaration, however it is laid out. A text is missing only where there is
no room for one of its margins.
-/

namespace Componentry

open Script (Vocabulary Assembled)

def lineless : Vocabulary where
  number v := ∃ i, v = .int i ∧ Text.IsShort i
  name k := '\n' ∉ k.toList
  component k := Naming.isReference k = true ∧ '\n' ∉ k.toList
  options := by decide

instance (k : String) : Decidable (lineless.name k) :=
  inferInstanceAs (Decidable ('\n' ∉ k.toList))

theorem keywords_reserved : ∀ k ∈ Script.keywords, k ∈ Naming.reservedWords := by decide

/-- A name that can refer to a component is not a keyword. -/
theorem lineless_component {k : String} (h : lineless.component k) :
    Naming.isIdentifierName k = true ∧
      Script.keywords.contains (Script.settledName k) = false := by
  obtain ⟨hreference, hlineless⟩ := h
  rw [Naming.isReference, Bool.and_eq_true, Bool.not_eq_true'] at hreference
  refine ⟨hreference.1, ?_⟩
  rw [Script.settledName_of_not_mem hlineless, ← Bool.not_eq_true, List.contains_iff_mem]
  intro hmem
  have hreserved := List.contains_iff_mem.mpr (keywords_reserved k hmem)
  rw [hreference.2] at hreserved
  cases hreserved

/-- Printing a component loses nothing: the text is read as the declaration that was printed. -/
theorem Component.IsPlain.readDeclaration_print [Machine] {c : Component} (h : c.IsPlain lineless)
    {dependencies : List Value}
    (hdependencies : ∀ d ∈ dependencies, ∃ k, d = .str k ∧ lineless.component k)
    {data : Entries Value} (hdata : (Value.map data).IsPlain lineless) {handlers : Handlers}
    (hhandlers : Handlers.IsPlain lineless handlers) (s : Settings) :
    ∃ d text, (c.declaration dependencies (.map data) handlers).result = .ok d ∧
      s.PrintsAs 0 d text ∧ Script.readDeclaration text = some d := by
  obtain ⟨ms, hms, hassembled⟩ := h.declaration
    (fun d hd => (hdependencies d hd).imp fun k hk => ⟨hk.1, hk.2.1, hk.2⟩) hdata hhandlers
  have hreread := hassembled.reread_eq_self (fun k hk => Script.settledName_of_not_mem hk)
    (fun k hk => Script.settledName_of_not_mem hk.2)
  have htyped : (Node.exportDefault _).Everywhere Node.IsTyped := .intro trivial
    (List.forall_mem_singleton.mpr (hassembled.isTyped fun v hv => .inl (hv.imp fun _ hi => hi.1)))
  obtain ⟨text, hprint, hread⟩ := Script.readDeclaration_printed hassembled s.readable_roomy
    (fun v hv => hv) (fun k hk => lineless_component hk)
  refine ⟨_, text, hms, printsAs_of_roomy htyped hprint, ?_⟩
  rw [hread, hreread, Script.isLegal, hassembled.isLegal, if_pos rfl]

section

open Componentry.Program

/-- A list that can be opened: a required prop with a default, a component that is used, a field
that an event toggles, and a call of the prop. -/
def openableList : Document where
  component := ⟨.str "List",
    [(.str "items", ⟨.str "array", some (.list [.int 1, .int (-2)]), true⟩)],
    [(.str "is open", .bool false)]⟩
  dependencies := [.str "Item"]
  handlers := [(.str "press", [.stateChange (.str "is open") (.str "$toggle"),
    .propCall (.str "items") [.map [(.str "at", .null)]]])]

def openableListScript : String := Text.join "\n" [
  "export default \x7b", "  name: 'List',", "  props: \x7b", "    items: \x7b",
  "      required: true,", "      type: Array,", "      default: () => [1, -2]", "    \x7d",
  "  \x7d,", "  components: \x7b", "    Item", "  \x7d,", "  data() \x7b", "    return \x7b",
  "      'is open': false", "    \x7d", "  \x7d,", "  methods: \x7b", "    press() \x7b",
  "      this['is open'] = !this['is open']", "      this.$emit('items', \x7b", "        at: null",
  "      \x7d)", "    \x7d", "  \x7d", "\x7d"]

set_option maxRecDepth 20000 in
theorem readDeclaration_print_list : ∃ d, openableList.declaration.result = .ok d ∧
    Script.print Settings.default.style d = .ok (.str openableListScript) ∧
    Script.readDeclaration openableListScript = some d := by
  have hcomponent : openableList.component.IsPlain lineless := by
    refine ⟨⟨_, rfl⟩, ⟨["items"], rfl, by decide, by decide⟩,
      List.forall_mem_singleton.mpr ⟨⟨.array, by decide⟩, ?_⟩⟩
    simp only [Option.mem_def, Option.some.injEq, forall_eq']
    exact .list (by simpa using ⟨.int ⟨1, rfl, by decide⟩, .int ⟨-2, rfl, by decide⟩⟩)
  have hstate : (Value.map openableList.component.state).IsPlain lineless :=
    .map ⟨["is open"], rfl, by decide, by decide⟩ (List.forall_mem_singleton.mpr (.bool false))
  have hhandlers : Handlers.IsPlain lineless openableList.handlers := by
    refine ⟨⟨["press"], rfl, by decide, by decide⟩, List.forall_mem_singleton.mpr ?_⟩
    simp only [List.forall_mem_cons]
    refine ⟨.stateChange (by decide) (.str _), .propCall (Or.inr ⟨_, rfl⟩) ?_, nofun⟩
    exact List.forall_mem_singleton.mpr (.map ⟨["at"], rfl, by decide, by decide⟩
      (List.forall_mem_singleton.mpr .null))
  obtain ⟨d, text, hd, hprints, hread⟩ := hcomponent.readDeclaration_print
    (List.forall_mem_singleton.mpr ⟨"Item", rfl, by decide, by decide⟩) hstate hhandlers
    Settings.default
  have hprint : Script.print Settings.default.style d = .ok (.str openableListScript) := by
    cases hd
    rfl
  cases hprints.eq_of_print hprint
  exact ⟨d, hd, hprint, hread⟩

end

end Componentry
