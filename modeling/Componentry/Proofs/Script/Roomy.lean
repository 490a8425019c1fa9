import Componentry.Proofs.Script.Assembled
import Componentry.Proofs.Script.Sketched
import Componentry.Proofs.Settings.Room

/-!
# Printing with the room there is

What is printed under some settings is what is printed with room for every margin. So whatever is
shown of a text with all its margins holds of every text that is printed; and where there is none,
a number in the node cannot be written, or a margin is refused that the text would have.
-/

namespace Componentry

open Script (Drawn Role Vocabulary Assembled)

section

variable [Machine]

/-- A node prints as a text, unless a margin is refused that the text has. -/
structure Settings.PrintsAs (s : Settings) (level : Nat) (n : Node) (text : String) : Prop where
  roomy : Script.printNode s.roomy level n = .ok (.str text)
  held : Script.printNode s.style level n = .ok (.str text) ∨
    ∃ f, s.Lacks text.length f ∧ Script.printNode s.style level n = .error f

variable {s : Settings} {level : Nat} {n : Node}

theorem Settings.PrintsAs.eq_of_print {text : String} (h : s.PrintsAs level n text) {v : Value}
    (hprint : Script.printNode s.style level n = .ok v) : v = .str text := by
  rcases h.held with hheld | ⟨f, -, hheld⟩
  · exact Except.ok.inj (hprint.symm.trans hheld)
  · cases hprint.symm.trans hheld

theorem Script.Drawn.printsAs {k : Script.Sketch} (h : Drawn s.roomy n k) (level : Nat) :
    s.PrintsAs level n (k.laid s.unit level) := by
  have hroomy : Script.printNode s.roomy level n = Value.str <$> k.layOut s.roomy.margin level :=
    h.print s.roomy.margin level
  have hstyle : Script.printNode s.style level n = Value.str <$> k.layOut s.margin level :=
    h.print s.margin level
  refine ⟨?_, ?_⟩
  · rw [hroomy, Settings.roomy, Script.Sketch.layOut_ok]
    rfl
  · rw [hstyle]
    rcases s.layOut_cases level k with hk | ⟨f, hk, hlacks⟩ <;> rw [hk]
    · exact .inl rfl
    · exact .inr ⟨f, hlacks, rfl⟩

/-- What is printed at all has a sketch. -/
theorem drawn_of_style (hn : n.Everywhere Node.IsTyped) {v : Value}
    (h : Script.printNode s.style level n = .ok v) : ∃ k, Drawn s.roomy n k :=
  (Script.hasSketch s.quote_style s.lineFeed_not_mem_terminator hn).node ⟨s.margin, level, v, h⟩

theorem printsAs_of_roomy (hn : n.Everywhere Node.IsTyped) {text : String}
    (h : Script.printNode s.roomy level n = .ok (.str text)) : s.PrintsAs level n text := by
  obtain ⟨k, hk⟩ : ∃ k, Drawn s.roomy n k :=
    (Script.hasSketch s.quote_style s.lineFeed_not_mem_terminator hn).node
      ⟨s.roomy.margin, level, _, h⟩
  have hprints := hk.printsAs level
  obtain rfl : k.laid s.unit level = text :=
    Value.str.inj (Except.ok.inj (hprints.roomy.symm.trans h))
  exact hprints

/-- What is printed at all is printed with all room, and its numbers can be written. -/
theorem roomy_of_style (hn : n.Everywhere Node.IsTyped) {v : Value}
    (h : Script.printNode s.style level n = .ok v) :
    ∃ text, v = .str text ∧ Script.printNode s.roomy level n = .ok (.str text) ∧
      n.Everywhere Node.HasNumeral := by
  obtain ⟨k, hk⟩ := drawn_of_style hn h
  have hprints := hk.printsAs level
  exact ⟨_, hprints.eq_of_print h, hprints.roomy, hk.numerals⟩

end

namespace Script

/-- The same names, and those of the numbers that can be written. -/
def Vocabulary.limited (voc : Vocabulary) : Vocabulary :=
  { voc with number := fun v => voc.number v ∧ ∃ s, numeral v = .ok s }

variable {voc : Vocabulary} {role : Role} {n : Node}

theorem Vocabulary.isShort_of_limited (h : ∀ v, voc.number v → ∃ i, v = .int i) {v : Value}
    (hv : voc.limited.number v) : ∃ i, v = .int i ∧ Text.IsShort i := by
  obtain ⟨i, rfl⟩ := h v hv.1
  obtain ⟨s, hs⟩ := hv.2
  exact ⟨i, rfl, (numeral_int_eq_ok hs).1⟩

theorem everywhere_key {P : Node → Prop} {k : String}
    (hidentifier : P (.identifier (.str k))) (htext : P (.stringLiteral (.str k))) :
    (Node.key k).Everywhere P := by
  unfold Node.key
  split_ifs
  · exact .intro hidentifier nofun
  · exact .intro htext nofun

theorem everywhere_thisMember {P : Node → Prop} {name : Value} (h : P (.thisMember name))
    (hthis : P .thisExpression) (hname : P (.identifier name)) :
    (Node.thisMember name).Everywhere P :=
  .intro h (List.forall_mem_cons.mpr ⟨.intro hthis nofun,
    List.forall_mem_singleton.mpr (.intro hname nofun)⟩)

theorem Assembled.isTyped (h : Assembled voc role n)
    (hnumber : ∀ v, voc.number v → IsNumber v) : n.Everywhere Node.IsTyped := by
  have hkey (k : String) : (Node.key k).Everywhere Node.IsTyped :=
    everywhere_key ⟨k, rfl⟩ ⟨k, rfl⟩
  have hmember (k : String) : (Node.thisMember (.str k)).Everywhere Node.IsTyped :=
    everywhere_thisMember ⟨false, rfl⟩ trivial ⟨k, rfl⟩
  induction h with
  | null => exact .intro trivial nofun
  | bool b => exact .intro ⟨b, rfl⟩ nofun
  | number hv => exact .intro (.inl (hnumber _ hv)) nofun
  | text s => exact .intro ⟨s, rfl⟩ nofun
  | array _ ih => exact .intro trivial ih
  | object _ _ ih => exact .intro trivial ih
  | constructor kind => exact .intro ⟨_, rfl⟩ nofun
  | fresh _ ih => exact .intro trivial (List.forall_mem_singleton.mpr ih)
  | toggled hk => exact .intro ⟨_, rfl⟩ (List.forall_mem_singleton.mpr (hmember _))
  | property hk _ ih =>
    exact .intro ⟨false, rfl, nofun⟩
      (List.forall_mem_cons.mpr ⟨hkey _, List.forall_mem_singleton.mpr ih⟩)
  | @binding k hk =>
    have hname : (Node.identifier (.str k)).Everywhere Node.IsTyped := .intro ⟨k, rfl⟩ nofun
    exact .intro ⟨true, rfl, fun _ => ⟨_, _, rfl, rfl⟩⟩
      (List.forall_mem_cons.mpr ⟨hname, List.forall_mem_singleton.mpr hname⟩)
  | method hk _ ih =>
    exact .intro trivial (List.forall_mem_cons.mpr
      ⟨hkey _, List.forall_mem_singleton.mpr (.intro trivial ih)⟩)
  | result _ ih => exact .intro trivial (List.forall_mem_singleton.mpr ih)
  | assignment hk _ ih =>
    exact .intro trivial (List.forall_mem_singleton.mpr (.intro ⟨_, rfl⟩
      (List.forall_mem_cons.mpr ⟨hmember _, List.forall_mem_singleton.mpr ih⟩)))
  | emission _ ih =>
    exact .intro trivial (List.forall_mem_singleton.mpr (.intro trivial
      (List.forall_mem_cons.mpr ⟨hmember _, ih⟩)))

/-- A declaration whose numbers can be written is one for these numbers alone. -/
theorem Assembled.limited (h : Assembled voc role n) (hnumerals : n.Everywhere Node.HasNumeral) :
    Assembled voc.limited role n := by
  induction h with
  | null => exact .null
  | bool b => exact .bool b
  | number hv => exact .number ⟨hv, hnumerals.here⟩
  | text s => exact .text s
  | array _ ih => exact .array fun e he => ih e he (hnumerals.children e he)
  | object _ hprototype ih =>
    exact .object (fun m hm => ih m hm (hnumerals.children m hm)) hprototype
  | constructor kind => exact .constructor kind
  | fresh _ ih => exact .fresh (ih (hnumerals.children _ List.mem_cons_self))
  | toggled hk => exact .toggled hk
  | property hk _ ih =>
    exact .property hk (ih (hnumerals.children _ (List.mem_cons_of_mem _ List.mem_cons_self)))
  | binding hk => exact .binding hk
  | method hk _ ih =>
    have hbody := hnumerals.children _ (List.mem_cons_of_mem _ List.mem_cons_self)
    exact .method hk fun s hs => ih s hs (hbody.children s hs)
  | result _ ih => exact .result (ih (hnumerals.children _ List.mem_cons_self))
  | assignment hk _ ih =>
    have hassignment := hnumerals.children _ List.mem_cons_self
    exact .assignment hk (ih (hassignment.children _ (List.mem_cons_of_mem _ List.mem_cons_self)))
  | emission _ ih =>
    have hcall := hnumerals.children _ List.mem_cons_self
    exact .emission fun e he => ih e he (hcall.children e (List.mem_cons_of_mem _ he))

end Script

end Componentry
