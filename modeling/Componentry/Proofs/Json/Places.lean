import Componentry.Json.Reader
import Componentry.Proofs.Result
import Mathlib.Tactic.SplitIfs

/-!
# Reading without places

The places that the reader keeps matter only for the place of a complaint. Without them it takes the
same step on a character wherever that stands, and two states that differ in places alone come to
the same value or to the same problem.
-/

namespace Componentry.Json

def TextPoint.unplaced : TextPoint → TextPoint
  | .plain => .plain
  | .backslash _ => .backslash 0
  | .digits _ count code => .digits 0 count code
  | .coded _ => .coded 0

def TextState.unplaced (t : TextState) : TextState :=
  { t with opened := 0, point := t.point.unplaced }

def NumberPoint.unplaced : NumberPoint → NumberPoint
  | .point _ => .point 0
  | .mark _ signed => .mark 0 signed
  | p => p

def NumberState.unplaced (n : NumberState) : NumberState := { n with point := n.point.unplaced }

def Expectation.unplaced : Expectation → Expectation
  | .nameText es t => .nameText es t.unplaced
  | .text t => .text t.unplaced
  | .word _ rest v => .word 0 rest v
  | .minus _ => .minus 0
  | .number n => .number n.unplaced
  | next => next

def Refusal.problem? : Refusal → Option Problem
  | .problem p _ => some p
  | .tooLong => none

section

variable {α β γ δ : Type}

/-- What reading came to, where of a refusal only its problem counts. -/
def outcome (f : α → β) : Except Refusal α → Except (Option Problem) β
  | .ok a => .ok (f a)
  | .error r => .error r.problem?

theorem outcome_bind {f : α → β} {g : γ → δ} {x x' : Except Refusal α}
    {k k' : α → Except Refusal γ} (hx : outcome f x = outcome f x')
    (hk : ∀ a a', x = .ok a → x' = .ok a' → f a = f a' →
      outcome g (k a) = outcome g (k' a')) :
    outcome g (x >>= k) = outcome g (x' >>= k') := by
  cases x with
  | error r =>
    cases x' with
    | error r' => exact congrArg Except.error (Except.error.inj hx)
    | ok a' => cases hx
  | ok a =>
    cases x' with
    | error r' => cases hx
    | ok a' => exact hk a a' rfl rfl (Except.ok.inj hx)

end

def unplacedStep (p : List Frame × Expectation) : List Frame × Expectation := (p.1, p.2.unplaced)

section

variable (index index' : Nat) (c : Char)

theorem TextState.unplaced_push (t : TextState) :
    (t.push c).unplaced = (t.unplaced.push c).unplaced := by
  obtain ⟨opened, chars, half, point⟩ := t
  cases half <;> rfl

theorem TextState.unplaced_pushCode (t : TextState) (letter letter' code : Nat) :
    (t.pushCode letter code).unplaced = (t.unplaced.pushCode letter' code).unplaced := by
  obtain ⟨opened, chars, half, point⟩ := t
  unfold pushCode
  split_ifs <;> cases half <;> rfl

theorem TextState.finish_unplaced (t : TextState) : t.unplaced.finish = t.finish := by
  obtain ⟨opened, chars, half, point⟩ := t
  cases half <;> rfl

theorem outcome_stepText (t : TextState) :
    outcome (Sum.map TextState.unplaced id) (stepText index c t) =
      outcome (Sum.map TextState.unplaced id) (stepText index' c t.unplaced) := by
  have hpush (d : Char) :
      outcome (Sum.map TextState.unplaced (id : String → String)) (.ok (.inl (t.push d))) =
        outcome (Sum.map TextState.unplaced id) (.ok (.inl (t.unplaced.push d))) :=
    congrArg (fun t => Except.ok (Sum.inl t)) (t.unplaced_push d)
  obtain ⟨opened, chars, half, point⟩ := t
  unfold stepText
  cases point with
  | backslash place =>
    simp only [TextState.unplaced, TextPoint.unplaced]
    split_ifs
    · rfl
    · cases unescaped? c with
      | none => rfl
      | some d => exact hpush d
  | digits letter count code =>
    simp only [TextState.unplaced, TextPoint.unplaced]
    cases Text.hexDigit? c with
    | none => rfl
    | some d =>
      dsimp only
      split_ifs
      · exact congrArg (fun t => Except.ok (Sum.inl t)) (TextState.unplaced_pushCode _ _ _ _)
      · rfl
  | _ =>
    simp only [TextState.unplaced, TextPoint.unplaced]
    split_ifs
    · exact congrArg (fun s => Except.ok (Sum.inr s)) (TextState.finish_unplaced _).symm
    · rfl
    · rfl
    · exact hpush c

/-- A number that was cut off makes a problem of its own in front of what follows it. -/
theorem outcome_cut {α β : Type} {f : α → β} (n : NumberState) (problem : Problem)
    {x x' : Except Refusal α} (hx : outcome f x = outcome f x') :
    outcome f (match n.cutAt? with | some place => .error (.problem problem place) | none => x) =
      outcome f (match n.unplaced.cutAt? with
        | some place => .error (.problem problem place)
        | none => x') := by
  obtain ⟨negative, digits, wholeDigits, places, real, negativeExponent, exponent, point⟩ := n
  cases point with
  | point place => rfl
  | mark place signed => rfl
  | _ => exact hx

theorem NumberState.unplaced_extend? (n : NumberState) :
    (n.extend? index c).map unplaced = (n.unplaced.extend? index' c).map unplaced := by
  obtain ⟨negative, digits, wholeDigits, places, real, negativeExponent, exponent, point⟩ := n
  unfold extend?
  cases point with
  | mark place signed =>
    simp only [unplaced, NumberPoint.unplaced]
    cases digit? c with
    | some d => rfl
    | none =>
      dsimp only
      split_ifs <;> rfl
  | point place => cases digit? c <;> rfl
  | exponent => cases digit? c <;> rfl
  | zero =>
    dsimp only
    split_ifs <;> rfl
  | _ =>
    cases digit? c with
    | some d => rfl
    | none =>
      dsimp only
      split_ifs <;> rfl

variable (frames : List Frame)

theorem outcome_beginValue : outcome unplacedStep (beginValue index c frames) =
    outcome unplacedStep (beginValue index' c frames) := by
  unfold beginValue
  split
  case h_10 => cases digit? c <;> rfl
  all_goals rfl

theorem outcome_stepAfter (next : Expectation) :
    outcome unplacedStep (stepAfter index c frames next) =
      outcome unplacedStep (stepAfter index' c frames next) := by
  cases next <;> simp only [stepAfter] <;> split_ifs <;> rfl

theorem outcome_endNumber (n : NumberState) :
    outcome unplacedStep (endNumber index c frames n) =
      outcome unplacedStep (endNumber index' c frames n.unplaced) := by
  refine outcome_bind (f := id) rfl fun v v' _ _ hv => ?_
  cases hv
  exact outcome_cut n _ (outcome_stepAfter ..)

/-- Without places, a step depends neither on where it is taken nor on the places kept so far. -/
theorem outcome_stepNext (next : Expectation) :
    outcome unplacedStep (stepNext index c frames next) =
      outcome unplacedStep (stepNext index' c frames next.unplaced) := by
  cases next with
  | value =>
    simp only [stepNext, Expectation.unplaced]
    split_ifs
    · rfl
    · exact outcome_beginValue ..
  | firstItem =>
    simp only [stepNext, Expectation.unplaced]
    split_ifs
    · rfl
    · rfl
    · exact outcome_beginValue ..
  | name first es =>
    simp only [stepNext, Expectation.unplaced]
    split_ifs <;> rfl
  | colon es name =>
    simp only [stepNext, Expectation.unplaced]
    split_ifs <;> rfl
  | nameText es t =>
    refine outcome_bind (outcome_stepText index index' c t) fun s s' _ _ hs => ?_
    rcases s with t | name <;> rcases s' with t' | name'
    · exact congrArg (fun t => Except.ok (frames, Expectation.nameText es t)) (Sum.inl.inj hs)
    · cases hs
    · cases hs
    · cases hs
      rfl
  | text t =>
    refine outcome_bind (outcome_stepText index index' c t) fun s s' _ _ hs => ?_
    rcases s with t | name <;> rcases s' with t' | name'
    · exact congrArg (fun t => Except.ok (frames, Expectation.text t)) (Sum.inl.inj hs)
    · cases hs
    · cases hs
    · cases hs
      rfl
  | word began rest v =>
    simp only [stepNext, Expectation.unplaced]
    rcases rest with _ | ⟨d, _ | ⟨e, rest⟩⟩ <;> dsimp only
    · rfl
    · split_ifs <;> rfl
    · split_ifs <;> rfl
  | minus began =>
    simp only [stepNext, Expectation.unplaced]
    cases digit? c with
    | some d => rfl
    | none =>
      dsimp only
      split_ifs <;> rfl
  | number n =>
    simp only [stepNext, Expectation.unplaced]
    -- The character belongs to the number on both sides or on neither.
    have hextend := n.unplaced_extend? index index' c
    cases hn : n.extend? index c with
    | none =>
      rw [hn, Option.map_none] at hextend
      rw [Option.map_eq_none_iff.mp hextend.symm]
      exact outcome_endNumber ..
    | some m =>
      rw [hn, Option.map_some] at hextend
      obtain ⟨m', hm', hm⟩ := Option.map_eq_some_iff.mp hextend.symm
      rw [hm']
      exact congrArg (fun n => Except.ok (frames, Expectation.number n)) hm.symm
  | afterItem items => exact outcome_stepAfter ..
  | afterMember es => exact outcome_stepAfter ..
  | finished v => exact outcome_stepAfter ..

end

def State.unplaced (s : State) : State := ⟨0, s.frames, s.next.unplaced⟩

section

variable {s s' : State} {c : Char}

theorem outcome_step (h : s.unplaced = s'.unplaced) :
    outcome State.unplaced (step s c) = outcome State.unplaced (step s' c) := by
  have hstep (s : State) : outcome State.unplaced (step s c) =
      outcome State.unplaced (step s.unplaced c) := by
    refine outcome_bind (outcome_stepNext s.index 0 c s.frames s.next) fun p p' _ _ hp => ?_
    exact congrArg (fun p => Except.ok (State.mk 0 p.1 p.2)) hp
  rw [hstep s, hstep s', h]

theorem outcome_endAfter (index index' : Nat) (next : Expectation) :
    outcome id (endAfter index next) = outcome id (endAfter index' next) := by
  cases next <;> rfl

theorem outcome_finish (h : s.unplaced = s'.unplaced) :
    outcome id s.finish = outcome id s'.finish := by
  have hfinish (s : State) : outcome id s.finish = outcome id s.unplaced.finish := by
    obtain ⟨index, frames, next⟩ := s
    cases next with
    | nameText es t =>
      obtain ⟨opened, chars, half, point⟩ := t
      cases point <;> rfl
    | text t =>
      obtain ⟨opened, chars, half, point⟩ := t
      cases point <;> rfl
    | number n =>
      refine outcome_bind (f := id) rfl fun v v' _ _ hv => ?_
      cases hv
      exact outcome_cut n _ (outcome_endAfter ..)
    | _ => rfl
  rw [hfinish s, hfinish s', h]

end

end Componentry.Json
