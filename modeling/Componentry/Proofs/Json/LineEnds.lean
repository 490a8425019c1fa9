import Componentry.Proofs.Json.Places
import Componentry.Text.Lines

/-!
# Ends of lines in a text of JSON

The end of a line is a gap between two tokens and makes the same problem inside one, whether it is a
line feed or a carriage return, and a second end of a line behind it changes nothing. So a text is
read like the text with every line ended by a line feed, up to the place of a complaint.
-/

namespace Componentry.Json

/-- A token is to come, before which gaps count for nothing. -/
inductive Expectation.Waits : Expectation → Prop
  | value : Waits .value
  | firstItem : Waits .firstItem
  | afterItem (items : List Value) : Waits (.afterItem items)
  | name (first : Bool) (es : Entries Value) : Waits (.name first es)
  | colon (es : Entries Value) (name : String) : Waits (.colon es name)
  | afterMember (es : Entries Value) : Waits (.afterMember es)
  | finished (v : Value) : Waits (.finished v)

/-- No line end belongs to a word that is being read. -/
def Expectation.IsUnbroken : Expectation → Prop
  | .word _ rest _ => '\n' ∉ rest ∧ '\r' ∉ rest
  | _ => True

section

variable {index : Nat} {c : Char} {frames : List Frame} {next : Expectation}
  {p : List Frame × Expectation}

theorem waits_complete (v : Value) (frames : List Frame) : (complete v frames).2.Waits := by
  cases frames with
  | nil => exact .finished v
  | cons f rest => cases f <;> constructor

theorem stepAfter_of_gap (hc : isGap c = true) (next : Expectation) :
    stepAfter index c frames next = .ok (frames, next) := by
  unfold stepAfter
  exact if_pos hc

theorem NumberState.extend?_lineEnd (n : NumberState) (hc : c = '\n' ∨ c = '\r') :
    n.extend? index c = none := by
  obtain ⟨negative, digits, wholeDigits, places, real, negativeExponent, exponent, point⟩ := n
  cases point with
  | mark place signed => rcases hc with rfl | rfl <;> cases signed <;> rfl
  | _ => rcases hc with rfl | rfl <;> rfl

theorem stepNext_of_waits (h : next.Waits) (hc : isGap c = true) :
    stepNext index c frames next = .ok (frames, next) := by
  cases h with
  | afterItem items => exact stepAfter_of_gap hc _
  | afterMember es => exact stepAfter_of_gap hc _
  | finished v => exact stepAfter_of_gap hc _
  | _ => rw [stepNext, if_pos hc]

/-- A carriage return is what a line feed is. -/
theorem stepNext_return (h : next.IsUnbroken) :
    stepNext index '\r' frames next = stepNext index '\n' frames next := by
  cases next with
  | nameText es t =>
    obtain ⟨opened, chars, half, point⟩ := t
    cases point <;> rfl
  | text t =>
    obtain ⟨opened, chars, half, point⟩ := t
    cases point <;> rfl
  | word began rest v =>
    obtain ⟨hfeed, hreturn⟩ := h
    unfold stepNext
    rcases rest with _ | ⟨d, _ | ⟨e, rest⟩⟩ <;> dsimp only
    · rw [if_neg (List.ne_of_not_mem_cons hfeed), if_neg (List.ne_of_not_mem_cons hreturn)]
    · rw [if_neg (List.ne_of_not_mem_cons hfeed), if_neg (List.ne_of_not_mem_cons hreturn)]
  | number n =>
    rw [stepNext, stepNext, n.extend?_lineEnd (.inl rfl), n.extend?_lineEnd (.inr rfl)]
    unfold endNumber
    simp only [stepAfter_of_gap (c := '\n') rfl, stepAfter_of_gap (c := '\r') rfl]
  | _ => rfl

/-- Behind a line end no token is being read. -/
theorem waits_of_lineFeed (h : next.IsUnbroken) (hp : stepNext index '\n' frames next = .ok p) :
    p.2.Waits := by
  cases next with
  | nameText es t =>
    obtain ⟨opened, chars, half, point⟩ := t
    cases point <;> cases hp
  | text t =>
    obtain ⟨opened, chars, half, point⟩ := t
    cases point <;> cases hp
  | word began rest v =>
    unfold stepNext at hp
    rcases rest with _ | ⟨d, _ | ⟨e, rest⟩⟩ <;> dsimp only at hp
    · cases hp
    · rw [if_neg (List.ne_of_not_mem_cons h.1)] at hp
      cases hp
    · rw [if_neg (List.ne_of_not_mem_cons h.1)] at hp
      cases hp
  | minus began => cases hp
  | number n =>
    rw [stepNext, n.extend?_lineEnd (.inl rfl)] at hp
    obtain ⟨v, -, hp⟩ := Result.bind_eq_ok.mp hp
    dsimp only at hp
    split at hp
    · cases hp
    · rw [stepAfter_of_gap rfl] at hp
      exact Except.ok.inj hp ▸ waits_complete v frames
  | _ =>
    rw [stepNext_of_waits (by constructor) rfl] at hp
    exact Except.ok.inj hp ▸ (by constructor)

theorem Expectation.Waits.isUnbroken (h : next.Waits) : next.IsUnbroken := by
  cases h <;> trivial

theorem isUnbroken_beginValue (hp : beginValue index c frames = .ok p) : p.2.IsUnbroken := by
  unfold beginValue at hp
  split at hp
  case h_10 =>
    split at hp <;> cases hp
    trivial
  -- The words that a value may be; none has a line end in it.
  case h_4 | h_5 | h_6 | h_7 | h_8 => exact Except.ok.inj hp ▸ ⟨by decide, by decide⟩
  all_goals exact Except.ok.inj hp ▸ trivial

theorem isUnbroken_stepAfter (h : next.IsUnbroken)
    (hp : stepAfter index c frames next = .ok p) : p.2.IsUnbroken := by
  unfold stepAfter at hp
  by_cases hgap : isGap c
  · rw [if_pos hgap] at hp
    exact Except.ok.inj hp ▸ h
  · rw [if_neg hgap] at hp
    cases next with
    | afterItem items =>
      dsimp only at hp
      split_ifs at hp
      · exact Except.ok.inj hp ▸ trivial
      · exact Except.ok.inj hp ▸ (waits_complete _ _).isUnbroken
    | afterMember es =>
      dsimp only at hp
      split_ifs at hp
      · exact Except.ok.inj hp ▸ trivial
      · exact Except.ok.inj hp ▸ (waits_complete _ _).isUnbroken
    | _ => cases hp

theorem isUnbroken_stepNext (h : next.IsUnbroken) (hp : stepNext index c frames next = .ok p) :
    p.2.IsUnbroken := by
  cases next with
  | value =>
    rw [stepNext] at hp
    split_ifs at hp
    · exact Except.ok.inj hp ▸ h
    · exact isUnbroken_beginValue hp
  | firstItem =>
    rw [stepNext] at hp
    split_ifs at hp
    · exact Except.ok.inj hp ▸ h
    · exact Except.ok.inj hp ▸ (waits_complete _ _).isUnbroken
    · exact isUnbroken_beginValue hp
  | name first es =>
    rw [stepNext] at hp
    split_ifs at hp
    · exact Except.ok.inj hp ▸ h
    · exact Except.ok.inj hp ▸ (waits_complete _ _).isUnbroken
    · exact Except.ok.inj hp ▸ trivial
  | nameText es t =>
    obtain ⟨read, -, hp⟩ := Result.bind_eq_ok.mp hp
    cases read <;> exact Except.ok.inj hp ▸ trivial
  | colon es name =>
    rw [stepNext] at hp
    split_ifs at hp
    · exact Except.ok.inj hp ▸ h
    · exact Except.ok.inj hp ▸ trivial
  | text t =>
    obtain ⟨read, -, hp⟩ := Result.bind_eq_ok.mp hp
    cases read with
    | inl t => exact Except.ok.inj hp ▸ trivial
    | inr s => exact Except.ok.inj hp ▸ (waits_complete _ _).isUnbroken
  | word began rest v =>
    unfold stepNext at hp
    rcases rest with _ | ⟨d, _ | ⟨e, rest⟩⟩ <;> dsimp only at hp
    · cases hp
    · split_ifs at hp
      exact Except.ok.inj hp ▸ (waits_complete _ _).isUnbroken
    · split_ifs at hp
      exact Except.ok.inj hp ▸
        ⟨List.not_mem_of_not_mem_cons h.1, List.not_mem_of_not_mem_cons h.2⟩
  | minus began =>
    rw [stepNext] at hp
    split at hp
    · exact Except.ok.inj hp ▸ trivial
    · split_ifs at hp
      exact Except.ok.inj hp ▸ ⟨by decide, by decide⟩
  | number n =>
    rw [stepNext] at hp
    split at hp
    · exact Except.ok.inj hp ▸ trivial
    · obtain ⟨v, -, hp⟩ := Result.bind_eq_ok.mp hp
      dsimp only at hp
      split at hp
      · cases hp
      · exact isUnbroken_stepAfter (waits_complete v frames).isUnbroken hp
  | afterItem items => exact isUnbroken_stepAfter h hp
  | afterMember es => exact isUnbroken_stepAfter h hp
  | finished v => exact isUnbroken_stepAfter h hp

end

section

variable {s s' : State} {c : Char}

theorem isUnbroken_step (h : s.next.IsUnbroken) (hs : step s c = .ok s') :
    s'.next.IsUnbroken := by
  obtain ⟨p, hp, hs⟩ := Result.bind_eq_ok.mp hs
  exact Except.ok.inj hs ▸ isUnbroken_stepNext h hp

theorem step_return (h : s.next.IsUnbroken) : step s '\r' = step s '\n' := by
  unfold step
  rw [stepNext_return h]

/-- A carriage return before a line feed adds nothing to it. -/
theorem outcome_step_return (h : s.unplaced = s'.unplaced) (hs : s.next.IsUnbroken) :
    outcome State.unplaced (step s '\r' >>= fun s => step s '\n') =
      outcome State.unplaced (step s' '\n') := by
  rw [step_return hs, ← outcome_step h]
  cases hnext : step s '\n' with
  | error r => rfl
  | ok t =>
    obtain ⟨p, hp, ht⟩ := Result.bind_eq_ok.mp hnext
    cases ht
    have hwaits := waits_of_lineFeed hs hp
    rw [Result.ok_bind, step, stepNext_of_waits hwaits rfl]
    rfl

/-- Read from two states that differ in places, a text and the text with every line ended by a line
feed lead to two such states. -/
theorem outcome_run_universalNewlines (text : List Char) (h : s.unplaced = s'.unplaced)
    (hs : s.next.IsUnbroken) :
    outcome State.unplaced (text.foldlM step s) =
      outcome State.unplaced ((Text.universalNewlines text).foldlM step s') := by
  fun_induction Text.universalNewlines text generalizing s s' with
  | case1 => exact congrArg Except.ok h
  | case2 rest ih =>
    -- Two steps on one side stand against one step on the other.
    simp only [List.foldlM_cons]
    rw [← bind_assoc]
    refine outcome_bind (outcome_step_return h hs) fun t t' ht _ heq => ih heq ?_
    obtain ⟨u, hu, ht⟩ := Result.bind_eq_ok.mp ht
    exact isUnbroken_step (isUnbroken_step hs hu) ht
  | case3 rest _ ih =>
    simp only [List.foldlM_cons]
    rw [step_return hs]
    exact outcome_bind (outcome_step h) fun t t' ht _ heq => ih heq (isUnbroken_step hs ht)
  | case4 c rest _ _ ih =>
    simp only [List.foldlM_cons]
    exact outcome_bind (outcome_step h) fun t t' ht _ heq => ih heq (isUnbroken_step hs ht)

end

/-- A byte order mark is refused wherever the lines end, since it ends none. -/
theorem head?_universalNewlines (text : List Char) :
    (Text.universalNewlines text).head? = some (Char.ofNat 0xFEFF) ↔
      text.head? = some (Char.ofNat 0xFEFF) := by
  fun_cases Text.universalNewlines text with
  | case1 => rfl
  | case2 rest => exact ⟨nofun, nofun⟩
  | case3 rest _ => exact ⟨nofun, nofun⟩
  | case4 c rest _ _ => rfl

/-- What a text is read to, or the problem that it has, does not depend on how its lines end. -/
theorem outcome_parse_universalNewlines (text : List Char) :
    outcome id (parse (Text.universalNewlines text)) = outcome id (parse text) := by
  unfold parse
  simp only [head?_universalNewlines]
  split_ifs
  · rfl
  · have hrun := outcome_run_universalNewlines text (s := .initial) rfl trivial
    exact (outcome_bind hrun fun _ _ _ _ h => outcome_finish h).symm

end Componentry.Json
