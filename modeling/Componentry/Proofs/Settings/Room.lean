import Componentry.Proofs.Script.Printed
import Componentry.Proofs.Script.Sketch
import Componentry.Proofs.Text.Pieces
import Componentry.Settings.Basic

/-!
# Room for margins

Settings say what one indentation is, and a machine may have no room for it, or for the margin of a
level. What is printed for margins that are all there is laid out for these settings alike, unless
a margin that the text would have is refused.
-/

namespace Componentry

namespace Settings

theorem quote_style (s : Settings) : Script.IsQuote s.quote := by
  unfold quote
  split_ifs
  · exact Or.inr rfl
  · exact Or.inl rfl

theorem isTerminator_terminator (s : Settings) : Script.IsTerminator s.terminator.toList := by
  unfold terminator
  split_ifs
  · exact Or.inr rfl
  · exact Or.inl rfl

theorem lineFeed_not_mem_terminator (s : Settings) : '\n' ∉ s.terminator.toList := by
  rcases s.isTerminator_terminator with h | h <;> rw [h] <;> decide

/-- One indentation, with all the room that it takes; nothing if the settings name no number of
blanks. -/
def unit (s : Settings) : String :=
  if (s.value .useTabs).truthy then "\t"
  else
    match count (s.value .indentSize) with
    | .ok n => spaces n
    | .error _ => ""

/-- How syntax is laid out under the settings if there is room for every margin. -/
def roomy (s : Settings) : Script.Style := ⟨s.quote, s.terminator, Script.Sketch.margins s.unit⟩

theorem unit_chars (s : Settings) : ∀ c ∈ s.unit.toList, c = ' ' ∨ c = '\t' := by
  intro c hc
  unfold unit at hc
  split at hc
  · exact .inr (List.mem_singleton.mp hc)
  · split at hc
    · rw [spaces, String.toList_ofList] at hc
      exact .inl (List.eq_of_mem_replicate hc)
    · cases hc

theorem lineFeed_not_mem_unit (s : Settings) : '\n' ∉ s.unit.toList := fun hmem => by
  rcases s.unit_chars _ hmem with heq | heq <;> cases heq

theorem readable_roomy (s : Settings) : s.roomy.Readable s.unit where
  quote := s.quote_style
  terminator := s.isTerminator_terminator
  indents _ := rfl
  blank c hc := by rcases s.unit_chars c hc with rfl | rfl <;> exact .inr rfl

section

variable [Machine]

/-- Why there is no text of so many characters that has margins: there is not one indentation, or a
run of no more characters is refused. -/
inductive Lacks (s : Settings) (length : Nat) : Failure → Prop
  | unit {f : Failure} (h : s.indent = .error f) : Lacks s length f
  | margin {size : Nat} {f : Fault} (hsize : size ≤ length)
    (h : Machine.refusal? size = some f) : Lacks s length (.fault f)

theorem Lacks.mono {s : Settings} {length length' : Nat} {f : Failure} (h : s.Lacks length f)
    (hle : length ≤ length') : s.Lacks length' f := by
  cases h with
  | unit h => exact .unit h
  | margin hsize h => exact .margin (hsize.trans hle) h

theorem makeRoom_cases (size : Nat) : Machine.makeRoom size = .ok () ∨
    ∃ f, Machine.refusal? size = some f ∧ Machine.makeRoom size = Result.fault f := by
  unfold Machine.makeRoom
  cases h : Machine.refusal? size with
  | none => exact .inl rfl
  | some f => exact .inr ⟨f, rfl, rfl⟩

theorem indent_eq_unit {s : Settings} {ind : String} (h : s.indent = .ok ind) : ind = s.unit := by
  unfold indent at h
  unfold unit
  split_ifs at h ⊢
  · exact (Except.ok.inj h).symm
  · obtain ⟨n, hn, h⟩ := Result.bind_eq_ok.mp h
    rw [hn]
    split_ifs at h
    · cases h
    · obtain ⟨-, -, h⟩ := Result.bind_eq_ok.mp h
      exact (Except.ok.inj h).symm

theorem margin_cases (s : Settings) (level : Nat) :
    s.margin level = .ok (Text.repeated s.unit level) ∨
      ∃ f, s.margin level = .error f ∧ s.Lacks (Text.repeated s.unit level).length f := by
  unfold margin
  cases hindent : s.indent with
  | error f => exact .inr ⟨f, rfl, .unit hindent⟩
  | ok ind =>
    obtain rfl := indent_eq_unit hindent
    rw [Result.ok_bind, ← Text.length_repeated]
    rcases makeRoom_cases (Text.repeated s.unit level).length with hroom | ⟨f, hf, hroom⟩
    · exact .inl (by rw [hroom]; rfl)
    · exact .inr ⟨.fault f, by rw [hroom]; rfl, .margin le_rfl hf⟩

/-- A sketch is laid out as if there were room for every margin, or one of its margins is refused
that the text would have. -/
theorem layOut_cases (s : Settings) (level : Nat) (k : Script.Sketch) :
    k.layOut s.margin level = .ok (k.laid s.unit level) ∨
      ∃ f, k.layOut s.margin level = .error f ∧ s.Lacks (k.laid s.unit level).length f := by
  induction k with
  | nil => exact .inl rfl
  | cons x k ih =>
    cases x with
    | text t =>
      rw [Script.Sketch.layOut, Script.Sketch.laid, String.length_append]
      rcases ih with hk | ⟨f, hk, hlacks⟩ <;> rw [hk]
      · exact .inl rfl
      · exact .inr ⟨f, rfl, hlacks.mono (Nat.le_add_left _ _)⟩
    | lineEnd depth =>
      rw [Script.Sketch.layOut, Script.Sketch.laid, String.length_append, String.length_append]
      rcases s.margin_cases (level + depth) with hmargin | ⟨f, hmargin, hlacks⟩ <;> rw [hmargin]
      · rcases ih with hk | ⟨f, hk, hlacks⟩ <;> rw [hk]
        · exact .inl rfl
        · exact .inr ⟨f, rfl, hlacks.mono (Nat.le_add_left _ _)⟩
      · exact .inr ⟨f, rfl, hlacks.mono ((Nat.le_add_left _ _).trans (Nat.le_add_right _ _))⟩

end

end Settings

end Componentry
