import Componentry.Component.Diagnostic
import Mathlib.Data.List.Forall2

/-!
# Results step by step

Operations that may fail are taken apart at their steps: a step that succeeds hands on its result,
and a whole that succeeds has had steps that did. Operations that record diagnostics have the result
of the same steps without the diagnostics.
-/

namespace Componentry

variable {ε α β : Type}

namespace Result

@[simp] theorem ok_bind (a : α) (f : α → Except ε β) : (Except.ok a >>= f) = f a := rfl

@[simp] theorem error_bind (e : ε) (f : α → Except ε β) :
    ((Except.error e : Except ε α) >>= f) = .error e := rfl

@[simp] theorem ok_map (f : α → β) (a : α) : (f <$> (Except.ok a : Except ε α)) = .ok (f a) := rfl

@[simp] theorem pure_eq (a : α) : (pure a : Except ε α) = .ok a := rfl

theorem bind_eq_ok {x : Except ε α} {f : α → Except ε β} {b : β} :
    (x >>= f) = .ok b ↔ ∃ a, x = .ok a ∧ f a = .ok b := by
  cases x with
  | error e => simp
  | ok a => simp

theorem bind_eq_error {x : Except ε α} {f : α → Except ε β} {e : ε} :
    (x >>= f) = .error e ↔ x = .error e ∨ ∃ a, x = .ok a ∧ f a = .error e := by
  cases x with
  | error e' => simp
  | ok a => simp

/-- Each result for a list of arguments is the result for one of them. -/
theorem exists_of_mapM {f : α → Except ε β} {as : List α} {bs : List β} (h : as.mapM f = .ok bs) :
    ∀ b ∈ bs, ∃ a ∈ as, f a = .ok b := by
  induction as generalizing bs with
  | nil => exact Except.ok.inj h ▸ nofun
  | cons a as ih =>
    rw [List.mapM_cons] at h
    obtain ⟨b, hb, h⟩ := bind_eq_ok.mp h
    obtain ⟨rest, hrest, h⟩ := bind_eq_ok.mp h
    cases h
    refine List.forall_mem_cons.mpr ⟨⟨a, List.mem_cons_self, hb⟩, fun c hc => ?_⟩
    obtain ⟨x, hx, hfx⟩ := ih hrest c hc
    exact ⟨x, List.mem_cons_of_mem a hx, hfx⟩

/-- There are results for a list of arguments just if there is one for each of them. -/
theorem exists_mapM_iff {f : α → Except ε β} {as : List α} :
    (∃ bs, as.mapM f = .ok bs) ↔ ∀ a ∈ as, ∃ b, f a = .ok b := by
  induction as with
  | nil => exact ⟨fun _ => nofun, fun _ => ⟨[], rfl⟩⟩
  | cons a as ih =>
    rw [List.forall_mem_cons, ← ih, List.mapM_cons]
    constructor
    · rintro ⟨bs, h⟩
      obtain ⟨b, hb, h⟩ := bind_eq_ok.mp h
      obtain ⟨rest, hrest, -⟩ := bind_eq_ok.mp h
      exact ⟨⟨b, hb⟩, rest, hrest⟩
    · rintro ⟨⟨b, hb⟩, rest, hrest⟩
      exact ⟨b :: rest, by rw [hb, hrest]; rfl⟩

/-- That there is no result for a list of arguments is due to one of them. -/
theorem exists_of_mapM_error {f : α → Except ε β} {as : List α} {e : ε}
    (h : as.mapM f = .error e) : ∃ a ∈ as, f a = .error e := by
  induction as with
  | nil => cases h
  | cons a as ih =>
    rw [List.mapM_cons] at h
    rcases bind_eq_error.mp h with ha | ⟨b, -, h⟩
    · exact ⟨a, List.mem_cons_self, ha⟩
    · rcases bind_eq_error.mp h with hrest | ⟨rest, -, h⟩
      · obtain ⟨x, hx, hfx⟩ := ih hrest
        exact ⟨x, List.mem_cons_of_mem a hx, hfx⟩
      · cases h

/-- Two lists whose items come to the same, up to a map, come to the same up to that map. -/
theorem mapM_of_forall₂ {γ δ : Type} {f : α → Except ε β} {g : γ → Except ε δ} {t : δ → β}
    {as : List α} {cs : List γ} (h : List.Forall₂ (fun a c => f a = t <$> g c) as cs) :
    as.mapM f = List.map t <$> cs.mapM g := by
  induction h with
  | nil => rfl
  | @cons a c as cs ha _ ih =>
    rw [List.mapM_cons, List.mapM_cons, ha, ih]
    cases g c with
    | error e => rfl
    | ok d => cases cs.mapM g <;> rfl

theorem of_mapError {γ : Type} {x : Except ε α} {f : ε → γ} {a : α}
    (h : x.mapError f = .ok a) : x = .ok a := by
  cases x with
  | error e => cases h
  | ok b => exact congrArg _ (Except.ok.inj h)

end Result

namespace Recorded

@[simp] theorem result_pure (a : α) : (pure a : Recorded α).result = .ok a := rfl

@[simp] theorem result_lift (r : Result α) : (lift r).result = r := rfl

@[simp] theorem result_liftM (r : Result α) : (liftM r : Recorded α).result = r := rfl

@[simp] theorem result_record (d : Diagnostic) : (record d).result = .ok () := rfl

@[simp] theorem result_bind (m : Recorded α) (f : α → Recorded β) :
    (m >>= f).result = m.result >>= fun a => (f a).result := by
  change (m.andThen f).result = _
  unfold andThen
  cases h : m.result with
  | error e => rfl
  | ok a => rfl

theorem ok_bind (a : α) (k : α → Recorded β) : ((⟨[], .ok a⟩ : Recorded α) >>= k) = k a := rfl

theorem bind_of_ok {m : Recorded α} {a : α} (h : m.result = .ok a) (k : α → Recorded β) :
    (m >>= k) = ⟨m.diagnostics ++ (k a).diagnostics, (k a).result⟩ := by
  change m.andThen k = _
  rw [andThen, h]

theorem bind_of_error {m : Recorded α} {f : Failure} (h : m.result = .error f)
    (k : α → Recorded β) : (m >>= k) = ⟨m.diagnostics, .error f⟩ := by
  change m.andThen k = _
  rw [andThen, h]

theorem bind_assoc {γ : Type} (m : Recorded α) (k : α → Recorded β) (l : β → Recorded γ) :
    (m >>= k) >>= l = m >>= fun a => k a >>= l := by
  cases hm : m.result with
  | error e => rw [bind_of_error hm, bind_of_error hm, bind_of_error rfl]
  | ok a =>
    rw [bind_of_ok hm, bind_of_ok hm]
    cases hk : (k a).result with
    | error e => rw [bind_of_error rfl, bind_of_error hk]
    | ok b => rw [bind_of_ok rfl, bind_of_ok hk, List.append_assoc]

theorem lift_bind (r : Result α) (k : α → Result β) :
    lift (r >>= k) = (lift r >>= fun a => lift (k a)) := by
  cases r <;> rfl

theorem map_ok (ds : List Diagnostic) (a : α) (g : α → β) :
    (do return g (← (⟨ds, .ok a⟩ : Recorded α)) : Recorded β) = ⟨ds, .ok (g a)⟩ := by
  rw [bind_of_ok rfl]
  exact congrArg (Recorded.mk · _) (List.append_nil ds)

theorem diagnostics_map (m : Recorded α) (g : α → β) :
    (do return g (← m) : Recorded β).diagnostics = m.diagnostics := by
  cases h : m.result with
  | error f => rw [bind_of_error h]
  | ok a =>
    rw [bind_of_ok h]
    exact List.append_nil _

theorem result_map_eq_error {m : Recorded α} {g : α → β} {f : Failure} :
    (do return g (← m) : Recorded β).result = .error f ↔ m.result = .error f := by
  rw [result_bind]
  cases m.result with
  | error e => exact ⟨fun h => congrArg _ (Except.error.inj h),
      fun h => congrArg _ (Except.error.inj h)⟩
  | ok a => exact ⟨nofun, nofun⟩

end Recorded

@[simp] theorem Value.inserted_str (s : String) : (Value.str s).inserted = .ok s := rfl

end Componentry
