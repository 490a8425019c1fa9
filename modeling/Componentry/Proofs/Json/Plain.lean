import Componentry.Proofs.Component.Typed
import Componentry.Proofs.Json.Numbers
import Componentry.Proofs.Value.Entries

/-!
# What is read is plain

Whatever a text of JSON holds, the value that is read from it is plain: names are texts, no two
names of an object are equal, and numbers can be written. While a text is read, this holds of all
that has been read so far.
-/

namespace Componentry.Json

open Componentry (written)

def MapIsPlain (es : Entries Value) : Prop := (Value.map es).IsPlain written.limited

def Frame.IsPlain : Frame → Prop
  | .list items => ∀ v ∈ items, v.IsPlain written.limited
  | .map es _ => MapIsPlain es

def Expectation.IsPlain : Expectation → Prop
  | .afterItem items => ∀ v ∈ items, v.IsPlain written.limited
  | .name _ es => MapIsPlain es
  | .nameText es _ => MapIsPlain es
  | .colon es _ => MapIsPlain es
  | .afterMember es => MapIsPlain es
  | .word _ _ v => v.IsPlain written.limited
  | .number n => n.IsSound
  | .finished v => v.IsPlain written.limited
  | _ => True

/-- All that has been read is plain. -/
structure IsPlain (p : List Frame × Expectation) : Prop where
  frames : ∀ f ∈ p.1, f.IsPlain
  next : p.2.IsPlain

theorem mapIsPlain_nil : MapIsPlain [] := .map Entries.isPlain_nil nofun

theorem Frame.isPlain_opened : (Frame.list []).IsPlain := fun _ hv => nomatch hv

theorem MapIsPlain.put {es : Entries Value} (h : MapIsPlain es) (name : String) {v : Value}
    (hv : v.IsPlain written.limited) : MapIsPlain (es.put (.str name) v) := by
  cases h with
  | map hentries hvalues =>
    refine .map (hentries.put trivial v) fun e he => ?_
    rcases Entries.mem_put he with hmem | heq
    · exact hvalues e hmem
    · exact heq ▸ hv

theorem isPlain_float (x : Double) : (Value.float x).IsPlain written.limited :=
  .float ⟨.inr ⟨x, rfl⟩, Script.exists_numeral_float x⟩

theorem NumberState.value_isPlain {n : NumberState} (hn : n.IsSound) {v : Value}
    (h : n.value = .ok v) : v.IsPlain written.limited := by
  rcases hn.value_cases h with ⟨x, rfl⟩ | ⟨i, rfl, hi⟩
  · exact isPlain_float x
  · exact .int ⟨.inl ⟨i, rfl⟩, _, Script.numeral_int hi⟩

section

variable {index : Nat} {c : Char} {frames : List Frame} {p : List Frame × Expectation}

theorem isPlain_complete {v : Value} (hv : v.IsPlain written.limited)
    (h : ∀ f ∈ frames, f.IsPlain) : IsPlain (complete v frames) := by
  cases frames with
  | nil => exact ⟨nofun, hv⟩
  | cons f rest =>
    obtain ⟨hf, hrest⟩ := List.forall_mem_cons.mp h
    cases f with
    | list items => exact ⟨hrest, List.forall_mem_cons.mpr ⟨hv, hf⟩⟩
    | map es name => exact ⟨hrest, MapIsPlain.put hf name hv⟩

theorem isPlain_beginValue (h : ∀ f ∈ frames, f.IsPlain) (hp : beginValue index c frames = .ok p) :
    IsPlain p := by
  unfold beginValue at hp
  split at hp
  case h_10 =>
    split at hp
    · next hd => exact Except.ok.inj hp ▸ ⟨h, NumberState.isSound_starting false hd⟩
    · cases hp
  case h_3 => exact Except.ok.inj hp ▸ ⟨h, mapIsPlain_nil⟩
  case h_4 => exact Except.ok.inj hp ▸ ⟨h, .null⟩
  case h_5 => exact Except.ok.inj hp ▸ ⟨h, .bool true⟩
  case h_6 => exact Except.ok.inj hp ▸ ⟨h, .bool false⟩
  case h_7 => exact Except.ok.inj hp ▸ ⟨h, isPlain_float _⟩
  case h_8 => exact Except.ok.inj hp ▸ ⟨h, isPlain_float _⟩
  all_goals exact Except.ok.inj hp ▸ ⟨h, trivial⟩

theorem isPlain_stepAfter {next : Expectation} (h : IsPlain (frames, next))
    (hp : stepAfter index c frames next = .ok p) : IsPlain p := by
  obtain ⟨hframes, hnext⟩ := h
  unfold stepAfter at hp
  by_cases hgap : isGap c
  · rw [if_pos hgap] at hp
    exact Except.ok.inj hp ▸ ⟨hframes, hnext⟩
  · rw [if_neg hgap] at hp
    cases next with
    | afterItem items =>
      dsimp only at hp
      split_ifs at hp
      · exact Except.ok.inj hp ▸ ⟨List.forall_mem_cons.mpr ⟨hnext, hframes⟩, trivial⟩
      · exact Except.ok.inj hp ▸ isPlain_complete
          (.list fun v hv => hnext v (List.mem_reverse.mp hv)) hframes
    | afterMember es =>
      dsimp only at hp
      split_ifs at hp
      · exact Except.ok.inj hp ▸ ⟨hframes, hnext⟩
      · exact Except.ok.inj hp ▸ isPlain_complete hnext hframes
    | _ => cases hp

theorem isPlain_endNumber {n : NumberState} (hn : n.IsSound) (h : ∀ f ∈ frames, f.IsPlain)
    (hp : endNumber index c frames n = .ok p) : IsPlain p := by
  obtain ⟨v, hv, hp⟩ := Result.bind_eq_ok.mp hp
  have hcomplete := isPlain_complete (NumberState.value_isPlain hn hv) h
  cases hcut : n.cutAt? with
  | some place =>
    rw [hcut] at hp
    cases hp
  | none =>
    rw [hcut] at hp
    exact isPlain_stepAfter hcomplete hp

theorem isPlain_stepNext {next : Expectation} (h : IsPlain (frames, next))
    (hp : stepNext index c frames next = .ok p) : IsPlain p := by
  obtain ⟨hframes, hnext⟩ := id h
  cases next with
  | value =>
    rw [stepNext] at hp
    split_ifs at hp
    · exact Except.ok.inj hp ▸ h
    · exact isPlain_beginValue hframes hp
  | firstItem =>
    rw [stepNext] at hp
    split_ifs at hp
    · exact Except.ok.inj hp ▸ h
    · exact Except.ok.inj hp ▸ isPlain_complete (.list nofun) hframes
    · exact isPlain_beginValue (List.forall_mem_cons.mpr ⟨Frame.isPlain_opened, hframes⟩) hp
  | name first es =>
    rw [stepNext] at hp
    split_ifs at hp
    · exact Except.ok.inj hp ▸ h
    · exact Except.ok.inj hp ▸ isPlain_complete mapIsPlain_nil hframes
    · exact Except.ok.inj hp ▸ ⟨hframes, hnext⟩
  | nameText es t =>
    obtain ⟨read, -, hp⟩ := Result.bind_eq_ok.mp hp
    cases read <;> exact Except.ok.inj hp ▸ ⟨hframes, hnext⟩
  | colon es name =>
    rw [stepNext] at hp
    split_ifs at hp
    · exact Except.ok.inj hp ▸ h
    · exact Except.ok.inj hp ▸ ⟨List.forall_mem_cons.mpr ⟨hnext, hframes⟩, trivial⟩
  | text t =>
    obtain ⟨read, -, hp⟩ := Result.bind_eq_ok.mp hp
    cases read with
    | inl t => exact Except.ok.inj hp ▸ ⟨hframes, trivial⟩
    | inr s => exact Except.ok.inj hp ▸ isPlain_complete (.str s) hframes
  | word began rest v =>
    unfold stepNext at hp
    rcases rest with _ | ⟨d, _ | ⟨e, rest⟩⟩ <;> dsimp only at hp
    · cases hp
    · split_ifs at hp
      exact Except.ok.inj hp ▸ isPlain_complete hnext hframes
    · split_ifs at hp
      exact Except.ok.inj hp ▸ ⟨hframes, hnext⟩
  | minus began =>
    rw [stepNext] at hp
    split at hp
    · next hd => exact Except.ok.inj hp ▸ ⟨hframes, NumberState.isSound_starting true hd⟩
    · split_ifs at hp
      exact Except.ok.inj hp ▸ ⟨hframes, isPlain_float _⟩
  | number n =>
    rw [stepNext] at hp
    split at hp
    · next hm => exact Except.ok.inj hp ▸ ⟨hframes, NumberState.IsSound.extend hnext hm⟩
    · exact isPlain_endNumber hnext hframes hp
  | afterItem items => exact isPlain_stepAfter h hp
  | afterMember es => exact isPlain_stepAfter h hp
  | finished v => exact isPlain_stepAfter h hp

end

theorem isPlain_step {s s' : State} {c : Char} (h : IsPlain (s.frames, s.next))
    (hs : step s c = .ok s') : IsPlain (s'.frames, s'.next) := by
  obtain ⟨p, hp, hs⟩ := Result.bind_eq_ok.mp hs
  exact Except.ok.inj hs ▸ isPlain_stepNext h hp

theorem isPlain_initial : IsPlain (State.initial.frames, State.initial.next) :=
  ⟨nofun, trivial⟩

theorem isPlain_run {text : List Char} {s s' : State} (h : IsPlain (s.frames, s.next))
    (hs : text.foldlM step s = .ok s') : IsPlain (s'.frames, s'.next) := by
  induction text generalizing s with
  | nil => exact Except.ok.inj hs ▸ h
  | cons c text ih =>
    rw [List.foldlM_cons] at hs
    obtain ⟨next, hnext, hs⟩ := Result.bind_eq_ok.mp hs
    exact ih (isPlain_step h hnext) hs

theorem isPlain_endAfter {index : Nat} {next : Expectation} {v : Value} (h : next.IsPlain)
    (hv : endAfter index next = .ok v) : v.IsPlain written.limited := by
  cases next <;> cases hv
  exact h

theorem State.isPlain_finish {s : State} {v : Value} (h : IsPlain (s.frames, s.next))
    (hv : s.finish = .ok v) : v.IsPlain written.limited := by
  obtain ⟨index, frames, next⟩ := s
  cases next with
  | number n =>
    obtain ⟨w, hw, hv⟩ := Result.bind_eq_ok.mp hv
    have hcomplete := isPlain_complete (NumberState.value_isPlain h.next hw) h.frames
    dsimp only at hv
    split at hv
    · cases hv
    · exact isPlain_endAfter hcomplete.next hv
  | finished w => exact Except.ok.inj hv ▸ h.next
  | _ => cases hv

/-- No text that begins with a byte order mark is read to its end. -/
theorem parse_of_run {text : List Char} {s : State} (h : text.foldlM step .initial = .ok s) :
    parse text = s.finish := by
  have hmark : ¬ text.head? = some (Char.ofNat 0xFEFF) := by
    intro hhead
    cases text with
    | nil => cases hhead
    | cons c text =>
      cases hhead
      cases h
  rw [parse, if_neg hmark, h]
  rfl

theorem isPlain_of_parse {text : List Char} {v : Value} (h : parse text = .ok v) :
    v.IsPlain written.limited := by
  unfold parse at h
  split_ifs at h
  obtain ⟨s, hs, hv⟩ := Result.bind_eq_ok.mp h
  exact s.isPlain_finish (isPlain_run isPlain_initial hs) hv

theorem isPlain_of_read {complain : Complaint → Failure} {text : List Char} {v : Value}
    (h : read complain text = .ok v) : v.IsPlain written.limited := by
  unfold read at h
  split at h
  case h_1 w hw =>
    cases h
    exact isPlain_of_parse hw
  all_goals cases h

end Componentry.Json
