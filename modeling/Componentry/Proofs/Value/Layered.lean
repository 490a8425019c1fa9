import Componentry.Proofs.Value.Entries

/-!
# Layers of entries

Entries that are updated keep distinct keys distinct. If the keys of two layers count as the same
only where they are one text, the result holds all entries of the later layer and those of the
earlier one whose keys are not among them; and it makes no difference which layers of several are
put together first.
-/

namespace Componentry.Entries

variable {α : Type} {voc : Script.Vocabulary} {es fs others : Entries α}

theorem distinct_iff : es.Distinct ↔ es.keys.Pairwise fun a b => a.same b = false := by
  rw [keys, List.pairwise_map]
  rfl

theorem keys_put (es : Entries α) (key : Value) (v : α) :
    (es.put key v).keys = es.keys ∨
      (∀ k ∈ es.keys, k.same key = false) ∧ (es.put key v).keys = es.keys ++ [key] := by
  by_cases h : ∀ k ∈ es.keys, k.same key = false
  · refine .inr ⟨h, ?_⟩
    rw [put_of_apart h, keys, List.map_append]
    rfl
  · refine .inl ?_
    induction es with
    | nil => exact absurd (List.forall_mem_nil _) h
    | cons e es ih =>
      obtain ⟨k, w⟩ := e
      rw [put]
      by_cases hk : k.same key = true
      · rw [if_pos hk]
        rfl
      · rw [if_neg hk]
        refine congrArg (k :: ·) (ih fun hrest => h ?_)
        exact List.forall_mem_cons.mpr ⟨Bool.eq_false_iff.mpr hk, hrest⟩

theorem Distinct.put (h : es.Distinct) (key : Value) (v : α) : (es.put key v).Distinct := by
  rw [distinct_iff] at h ⊢
  rcases keys_put es key v with hkeys | ⟨hapart, hkeys⟩
  · rwa [hkeys]
  · rw [hkeys, List.pairwise_append]
    refine ⟨h, List.pairwise_singleton _ _, fun k hk j hj => ?_⟩
    rw [List.mem_singleton.mp hj]
    exact hapart k hk

theorem Distinct.update (h : es.Distinct) (others : Entries α) : (es.update others).Distinct := by
  induction others generalizing es with
  | nil => exact h
  | cons e others ih => exact ih (h.put e.1 e.2)

/-- A key of the later layer is a text where it counts as the same as one of the earlier layer. -/
def Fits (es others : Entries α) : Prop :=
  ∀ k ∈ es.keys, ∀ j ∈ others.keys, k.same j = true → ∃ s, j = .str s

theorem IsPlain.fits (h : es.IsPlain voc) (others : Entries α) : es.Fits others := by
  intro k hk j _ hsame
  obtain ⟨ks, hkeys, -, -⟩ := h
  obtain ⟨s, -, rfl⟩ := List.mem_map.mp (hkeys ▸ hk)
  exact ⟨s, (str_same_iff s j).mp hsame⟩

/-- Keys of two layers that count as the same are the same text. -/
theorem Fits.eq_of_same (h : es.Fits others) {k j : Value} (hk : k ∈ es.keys)
    (hj : j ∈ others.keys) (hsame : k.same j = true) : k = j := by
  obtain ⟨s, rfl⟩ := h k hk j hj hsame
  exact eq_str_of_same hsame

theorem Fits.put {key : Value} {v : α} (h : es.Fits ((key, v) :: others))
    (hothers : Distinct ((key, v) :: others)) : (es.put key v).Fits others := by
  intro k hk j hj hsame
  have hold (hk : k ∈ es.keys) : ∃ s, j = .str s := h k hk j (List.mem_cons_of_mem _ hj) hsame
  rcases keys_put es key v with hkeys | ⟨-, hkeys⟩
  · exact hold (hkeys ▸ hk)
  · rcases List.mem_append.mp (hkeys ▸ hk) with hk | hk
    · exact hold hk
    · obtain rfl := List.mem_singleton.mp hk
      obtain ⟨f, hf, rfl⟩ := List.mem_map.mp hj
      rw [(List.pairwise_cons.mp hothers).1 f hf] at hsame
      cases hsame

theorem mem_put_iff (h : es.Distinct) {key : Value} (hkey : ∀ k ∈ es.keys, k.same key = true →
    ∃ s, key = .str s) (v : α) {e : Value × α} :
    e ∈ es.put key v ↔ e = (key, v) ∨ e ∈ es ∧ e.1.same key = false := by
  induction es with
  | nil => simp [put]
  | cons f es ih =>
    obtain ⟨k, w⟩ := f
    obtain ⟨hfirst, hrest⟩ := List.pairwise_cons.mp h
    rw [put]
    by_cases hk : k.same key = true
    · obtain ⟨s, rfl⟩ := hkey k List.mem_cons_self hk
      obtain rfl := eq_str_of_same hk
      rw [if_pos hk, List.mem_cons, List.mem_cons]
      refine or_congr_right ⟨fun he => ⟨.inr he, ?_⟩, fun he => he.1.resolve_left ?_⟩
      · refine Bool.eq_false_iff.mpr fun hsame => ?_
        have hapart := hfirst e he
        rw [eq_str_of_same hsame, hk] at hapart
        cases hapart
      · rintro rfl
        exact absurd he.2 (by rw [hk]; decide)
    · have hmem := ih hrest fun k hk => hkey k (List.mem_cons_of_mem _ hk)
      rw [if_neg hk, List.mem_cons, List.mem_cons, hmem]
      constructor
      · rintro (rfl | rfl | ⟨he, hsame⟩)
        · exact .inr ⟨.inl rfl, Bool.eq_false_iff.mpr hk⟩
        · exact .inl rfl
        · exact .inr ⟨.inr he, hsame⟩
      · rintro (rfl | ⟨rfl | he, hsame⟩)
        · exact .inr (.inl rfl)
        · exact .inl rfl
        · exact .inr (.inr ⟨he, hsame⟩)

/-- Two layers hold what the later one has, and what the earlier one has under other keys. -/
theorem mem_update_iff (h : es.Distinct) (hothers : others.Distinct) (hfits : es.Fits others)
    {e : Value × α} :
    e ∈ es.update others ↔ e ∈ others ∨ e ∈ es ∧ ∀ f ∈ others, e.1.same f.1 = false := by
  induction others generalizing es with
  | nil => exact ⟨fun he => .inr ⟨he, nofun⟩, fun he => (he.resolve_left List.not_mem_nil).1⟩
  | cons f others ih =>
    obtain ⟨hfirst, hrest⟩ := List.pairwise_cons.mp hothers
    obtain ⟨key, v⟩ := f
    have hkey : ∀ k ∈ es.keys, k.same key = true → ∃ s, key = .str s := fun k hk =>
      hfits k hk key List.mem_cons_self
    rw [update_cons, ih (h.put key v) hrest (hfits.put hothers), mem_put_iff h hkey]
    constructor
    · rintro (he | ⟨rfl | ⟨he, hsame⟩, hapart⟩)
      · exact .inl (List.mem_cons_of_mem _ he)
      · exact .inl List.mem_cons_self
      · exact .inr ⟨he, List.forall_mem_cons.mpr ⟨hsame, hapart⟩⟩
    · rintro (he | ⟨he, hapart⟩)
      · rcases List.mem_cons.mp he with rfl | he
        · exact .inr ⟨.inl rfl, hfirst⟩
        · exact .inl he
      · obtain ⟨hsame, hapart⟩ := List.forall_mem_cons.mp hapart
        exact .inr ⟨.inr ⟨he, hsame⟩, hapart⟩

theorem str_same_self (s : String) : (Value.str s).same (.str s) = true :=
  (str_same_iff s _).mpr rfl

theorem put_put_self (es : Entries α) (s : String) (v w : α) :
    (es.put (.str s) v).put (.str s) w = es.put (.str s) w := by
  induction es with
  | nil => simp [put, str_same_self]
  | cons e es ih =>
    obtain ⟨k, u⟩ := e
    rw [put, put]
    by_cases hk : k.same (.str s) = true
    · rw [if_pos hk, if_pos hk, put, if_pos hk]
    · rw [if_neg hk, if_neg hk, put, if_neg hk, ih]

/-- The value of a text that is there already can be put before or after another entry. -/
theorem put_comm {s : String} (h : .str s ∈ es.keys) {key : Value}
    (hkey : (Value.str s).same key = false) (v w : α) :
    (es.put key w).put (.str s) v = (es.put (.str s) v).put key w := by
  induction es with
  | nil => cases h
  | cons e es ih =>
    obtain ⟨k, u⟩ := e
    by_cases hs : k.same (.str s) = true
    · obtain rfl := eq_str_of_same hs
      simp [put, hs, hkey]
    · have hmem : .str s ∈ keys es := (List.mem_cons.mp h).resolve_left fun heq =>
        hs (heq ▸ str_same_self s)
      by_cases hk : k.same key = true
      · simp [put, hs, hk]
      · simp [put, hs, hk, ih hmem]

theorem str_mem_keys_put (es : Entries α) (s : String) (v : α) :
    .str s ∈ (es.put (.str s) v).keys := by
  by_cases hmem : .str s ∈ keys es
  · rwa [keys_put_of_mem hmem]
  · rw [put_of_not_mem hmem, keys, List.map_append]
    exact List.mem_append_right _ (List.mem_singleton_self _)

theorem update_put_str {s : String} (h : .str s ∈ es.keys)
    (hfs : ∀ k ∈ fs.keys, (Value.str s).same k = false) (v : α) :
    (es.update fs).put (.str s) v = (es.put (.str s) v).update fs := by
  induction fs generalizing es with
  | nil => rfl
  | cons f fs ih =>
    obtain ⟨k, w⟩ := f
    obtain ⟨hk, hrest⟩ := List.forall_mem_cons.mp hfs
    have hmem : .str s ∈ keys (es.put k w) := by
      rcases keys_put es k w with hkeys | ⟨-, hkeys⟩ <;> rw [hkeys]
      · exact h
      · exact List.mem_append_left _ h
    rw [update_cons, update_cons, ih hmem hrest, put_comm h hk]

theorem update_put (es : Entries α) (h : fs.Distinct) {key : Value}
    (hkey : ∀ k ∈ fs.keys, k.same key = true → ∃ s, key = .str s) (v : α) :
    es.update (fs.put key v) = (es.update fs).put key v := by
  induction fs generalizing es with
  | nil => rfl
  | cons f fs ih =>
    obtain ⟨k, w⟩ := f
    obtain ⟨hfirst, hrest⟩ := List.pairwise_cons.mp h
    rw [put]
    by_cases hk : k.same key = true
    · obtain ⟨s, rfl⟩ := hkey k List.mem_cons_self hk
      obtain rfl := eq_str_of_same hk
      have hapart : ∀ k ∈ keys fs, (Value.str s).same k = false := fun k hk => by
        obtain ⟨f, hf, rfl⟩ := List.mem_map.mp hk
        exact hfirst f hf
      rw [if_pos hk, update_cons, update_cons, update_put_str (str_mem_keys_put es s w) hapart,
        put_put_self]
    · rw [if_neg hk, update_cons, update_cons]
      exact ih _ hrest fun k hk => hkey k (List.mem_cons_of_mem _ hk)

/-- It makes no difference which layers are put together first. -/
theorem update_update (es : Entries α) (hfs : fs.Distinct) (hothers : others.Distinct)
    (hfits : fs.Fits others) : es.update (fs.update others) = (es.update fs).update others := by
  induction others generalizing fs with
  | nil => rfl
  | cons f others ih =>
    obtain ⟨key, v⟩ := f
    have hkey : ∀ k ∈ fs.keys, k.same key = true → ∃ s, key = .str s := fun k hk =>
      hfits k hk key List.mem_cons_self
    rw [update_cons, update_cons, ih (hfs.put key v) (List.pairwise_cons.mp hothers).2
      (hfits.put hothers), update_put es hfs hkey]

end Componentry.Entries
