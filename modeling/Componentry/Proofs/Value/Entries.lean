import Componentry.Proofs.Component.Declared
import Mathlib.Data.List.Nodup

/-!
# Entries under texts

Putting an entry under a text changes what is found there and nothing else, and it keeps the keys
distinct. So where entries are updated with others, each key has the value of the others if they
have it, and its own value if they have not.
-/

namespace Componentry

theorem isText_iff (v : Value) (s : String) : v.isText s = true ↔ v = .str s := by
  cases v <;> simp [Value.isText]

theorem str_same_iff (k : String) (w : Value) : (Value.str k).same w = true ↔ w = .str k := by
  have hleaf : (Value.str k).same w = (Value.str k).sameLeaf w := by
    cases w <;> rw [Value.same] <;> simp
  rw [hleaf, eq_comm (a := w)]
  cases w <;> simp [Value.sameLeaf, Value.number?]

theorem eq_str_of_text {v : Value} {s : String} (h : v.text = .ok s) : v = .str s := by
  cases v <;> cases h
  rfl

namespace Entries

variable {α : Type} {voc : Script.Vocabulary}

theorem isPlain_nil : Entries.IsPlain voc ([] : Entries α) := ⟨[], rfl, List.nodup_nil, nofun⟩

theorem IsPlain.of_sublist {es : Entries α} {ks : List String}
    (h : es.keys.Sublist (ks.map .str)) (hnodup : ks.Nodup) (hnames : ∀ k ∈ ks, voc.name k) :
    es.IsPlain voc := by
  obtain ⟨js, hjs, hkeys⟩ := List.sublist_map_iff.mp h
  exact ⟨js, hkeys, hnodup.sublist hjs, fun k hk => hnames k (hjs.subset hk)⟩

theorem IsPlain.filter {es : Entries α} (h : es.IsPlain voc) (q : Value × α → Bool) :
    IsPlain voc (es.filter q) := by
  obtain ⟨ks, hkeys, hnodup, hnames⟩ := h
  exact .of_sublist (hkeys ▸ List.filter_sublist.map _) hnodup hnames

theorem get?_cons (k : Value) (v : α) (es : Entries α) (j : String) :
    get? ((k, v) :: es) j = if k.isText j then some v else get? es j := by
  rw [get?, find?, same_str, get?]

theorem get?_cons_str (k : String) (v : α) (es : Entries α) (j : String) :
    get? ((.str k, v) :: es) j = if k = j then some v else get? es j := by
  simp [get?_cons, Value.isText]

theorem get?_append (es fs : Entries α) (j : String) :
    get? (es ++ fs) j = (es.get? j).or (fs.get? j) := by
  induction es with
  | nil => rfl
  | cons e es ih =>
    obtain ⟨k, v⟩ := e
    rw [List.cons_append, get?_cons, get?_cons, ih]
    split_ifs <;> rfl

theorem put_cons (k : String) (v w : α) (key : Value) (es : Entries α) :
    put ((key, w) :: es) (.str k) v =
      if key.isText k then (key, v) :: es else (key, w) :: put es (.str k) v := by
  rw [put, same_str]

/-- A key that counts as the same as another is the same text or no text either. -/
theorem isText_of_same {k key : Value} (h : k.same key = true) (j : String) :
    k.isText j = key.isText j := by
  rw [Bool.eq_iff_iff, isText_iff, isText_iff]
  constructor
  · rintro rfl
    exact (str_same_iff j key).mp h
  · rintro rfl
    rwa [same_str, isText_iff] at h

theorem get?_put_key (es : Entries α) (key : Value) (v : α) (j : String) :
    (es.put key v).get? j = if key.isText j then some v else es.get? j := by
  induction es with
  | nil => exact get?_cons key v [] j
  | cons e es ih =>
    obtain ⟨k, w⟩ := e
    rw [put]
    by_cases hkey : k.same key = true
    · rw [if_pos hkey, get?_cons, get?_cons, isText_of_same hkey]
      split_ifs <;> rfl
    · rw [if_neg hkey, get?_cons, get?_cons, ih]
      split_ifs with hk hj
      · rw [(isText_iff k j).mp hk, (isText_iff key j).mp hj] at hkey
        exact absurd ((str_same_iff j _).mpr rfl) hkey
      all_goals rfl

theorem get?_put (es : Entries α) (k : String) (v : α) (j : String) :
    (es.put (.str k) v).get? j = if k = j then some v else es.get? j := by
  rw [get?_put_key]
  simp [Value.isText]

theorem keys_put_of_mem {es : Entries α} {k : String} (h : .str k ∈ es.keys) (v : α) :
    (es.put (.str k) v).keys = es.keys := by
  induction es with
  | nil => cases h
  | cons e es ih =>
    obtain ⟨key, w⟩ := e
    rw [put_cons]
    by_cases hkey : key.isText k = true
    · rw [if_pos hkey]
      rfl
    · have hmem : .str k ∈ keys es := (List.mem_cons.mp h).resolve_left fun heq =>
        hkey ((isText_iff key k).mpr heq.symm)
      rw [if_neg hkey]
      exact congrArg (key :: ·) (ih hmem)

theorem put_of_apart {es : Entries α} {key : Value} (h : ∀ k ∈ es.keys, k.same key = false)
    (v : α) : es.put key v = es ++ [(key, v)] := by
  induction es with
  | nil => rfl
  | cons e es ih =>
    obtain ⟨k, w⟩ := e
    obtain ⟨hk, hrest⟩ := List.forall_mem_cons.mp h
    rw [put, hk, if_neg Bool.false_ne_true, ih hrest, List.cons_append]

theorem put_of_not_mem {es : Entries α} {k : String} (h : .str k ∉ es.keys) (v : α) :
    es.put (.str k) v = es ++ [(.str k, v)] := by
  refine put_of_apart (fun key hkey => ?_) v
  rw [same_str, Bool.eq_false_iff, ne_eq, isText_iff]
  exact fun heq => h (heq ▸ hkey)

theorem mem_put {es : Entries α} {k : Value} {v : α} {e : Value × α} (h : e ∈ es.put k v) :
    e ∈ es ∨ e.2 = v := by
  induction es with
  | nil =>
    rw [put, List.mem_singleton] at h
    exact .inr (h ▸ rfl)
  | cons f es ih =>
    obtain ⟨key, w⟩ := f
    rw [put] at h
    split_ifs at h
    · rcases List.mem_cons.mp h with rfl | h
      · exact .inr rfl
      · exact .inl (List.mem_cons_of_mem _ h)
    · rcases List.mem_cons.mp h with rfl | h
      · exact .inl List.mem_cons_self
      · exact (ih h).imp_left (List.mem_cons_of_mem _)

theorem mem_keys_put {es : Entries α} {k key : Value} {v : α} (h : key ∈ (es.put k v).keys) :
    key ∈ es.keys ∨ key = k := by
  induction es with
  | nil => exact .inr (List.mem_singleton.mp h)
  | cons f es ih =>
    rw [put] at h
    split_ifs at h
    · exact .inl h
    · rcases List.mem_cons.mp h with rfl | h
      · exact .inl List.mem_cons_self
      · exact (ih h).imp_left (List.mem_cons_of_mem _)

theorem mem_put_str {es : Entries α} {k : String} {v : α} {e : Value × α}
    (h : e ∈ es.put (.str k) v) : e ∈ es ∨ e = (.str k, v) := by
  induction es with
  | nil => exact .inr (List.mem_singleton.mp h)
  | cons f es ih =>
    obtain ⟨key, w⟩ := f
    rw [put_cons] at h
    split_ifs at h with hkey
    · obtain rfl := (isText_iff key k).mp hkey
      exact (List.mem_cons.mp h).symm.imp_left (List.mem_cons_of_mem _)
    · rcases List.mem_cons.mp h with rfl | h
      · exact .inl List.mem_cons_self
      · exact (ih h).imp_left (List.mem_cons_of_mem _)

theorem IsPlain.put {es : Entries α} (h : es.IsPlain voc) {k : String} (hk : voc.name k) (v : α) :
    (es.put (.str k) v).IsPlain voc := by
  by_cases hmem : .str k ∈ es.keys
  · exact h.of_keys (keys_put_of_mem hmem v)
  · obtain ⟨ks, hkeys, hnodup, hnames⟩ := h
    have hnot : k ∉ ks := fun hk => hmem (hkeys ▸ List.mem_map_of_mem hk)
    refine ⟨ks ++ [k], ?_, ?_, ?_⟩
    · rw [put_of_not_mem hmem, List.map_append, ← hkeys]
      exact List.map_append
    · exact List.nodup_append.mpr ⟨hnodup, List.nodup_singleton k,
        fun a ha b hb heq => hnot (List.mem_singleton.mp hb ▸ heq ▸ ha)⟩
    · exact List.forall_mem_append.mpr ⟨hnames, List.forall_mem_singleton.mpr hk⟩

theorem filter_key_cons (q : Value → Bool) (k : Value) (v : α) (es : Entries α) :
    ((k, v) :: es).filter (fun e => q e.1) =
      if q k then (k, v) :: es.filter (fun e => q e.1) else es.filter fun e => q e.1 :=
  List.filter_cons

/-- What is put under a key that is filtered out is filtered out with it, if keys that count as the
same are filtered in the same way. -/
theorem filter_put_key (q : Value → Bool) (es : Entries α) {key : Value}
    (hq : ∀ k, k.same key = true → q k = q key) (v : α) :
    (es.put key v).filter (fun e => q e.1) =
      if q key then put (es.filter fun e => q e.1) key v else es.filter fun e => q e.1 := by
  induction es with
  | nil => by_cases hkey : q key <;> simp [put, hkey]
  | cons e es ih =>
    obtain ⟨k, w⟩ := e
    rw [put]
    by_cases hsame : k.same key = true
    · have hk := hq k hsame
      by_cases hkey : q key <;> simp [hsame, hk, hkey, put]
    · rw [if_neg hsame]
      by_cases hk : q k
      · rw [filter_key_cons, filter_key_cons, if_pos hk, if_pos hk, ih, put, if_neg hsame]
        split_ifs <;> rfl
      · rw [filter_key_cons, filter_key_cons, if_neg hk, if_neg hk, ih]

theorem eq_str_of_same {k : Value} {j : String} (h : k.same (.str j) = true) : k = .str j :=
  (isText_iff k j).mp ((same_str k j).symm.trans h)

theorem filter_put (q : Value → Bool) (es : Entries α) (k : String) (v : α) :
    (es.put (.str k) v).filter (fun e => q e.1) =
      if q (.str k) then put (es.filter fun e => q e.1) (.str k) v
      else es.filter fun e => q e.1 :=
  filter_put_key q es (fun _ hkey => congrArg q (eq_str_of_same hkey)) v

theorem update_cons (es : Entries α) (k : Value) (v : α) (others : Entries α) :
    es.update ((k, v) :: others) = (es.put k v).update others := rfl

theorem get?_of_not_mem {es : Entries α} {j : String} (h : .str j ∉ es.keys) :
    es.get? j = none := by
  induction es with
  | nil => rfl
  | cons e es ih =>
    obtain ⟨key, w⟩ := e
    obtain ⟨hne, hrest⟩ := List.ne_and_not_mem_of_not_mem_cons h
    rw [get?_cons, if_neg fun hkey => hne ((isText_iff key j).mp hkey).symm, ih hrest]

theorem IsPlain.distinct {es : Entries α} (h : es.IsPlain voc) : es.Distinct := by
  induction es with
  | nil => exact .nil
  | cons e es ih =>
    obtain ⟨hrest, k, hk, -, hnot⟩ := h.cons
    refine List.pairwise_cons.mpr ⟨fun f hf => ?_, ih hrest⟩
    rw [hk, Bool.eq_false_iff, ne_eq, str_same_iff]
    exact fun heq => hnot (heq ▸ List.mem_map_of_mem hf)

/-- Of two layers the later one wins. -/
theorem get?_update_of_distinct {others : Entries α} (h : others.Distinct) (es : Entries α)
    (j : String) : (es.update others).get? j = (others.get? j).or (es.get? j) := by
  induction others generalizing es with
  | nil => rfl
  | cons e others ih =>
    obtain ⟨hfirst, hrest⟩ := List.pairwise_cons.mp h
    obtain ⟨key, v⟩ := e
    rw [update_cons, ih hrest, get?_put_key, get?_cons]
    split_ifs with hj
    · obtain rfl := (isText_iff key j).mp hj
      have hnot : .str j ∉ keys others := fun hmem => by
        obtain ⟨f, hf, heq⟩ := List.mem_map.mp hmem
        exact Bool.eq_false_iff.mp (hfirst f hf) ((str_same_iff j f.1).mpr heq)
      rw [get?_of_not_mem hnot]
      rfl
    · rfl

theorem get?_update {others : Entries α} (h : others.IsPlain voc) (es : Entries α) (j : String) :
    (es.update others).get? j = (others.get? j).or (es.get? j) :=
  get?_update_of_distinct h.distinct es j

theorem IsPlain.update {es others : Entries α} (h : es.IsPlain voc) (hothers : others.IsPlain voc) :
    (es.update others).IsPlain voc := by
  induction others generalizing es with
  | nil => exact h
  | cons e others ih =>
    obtain ⟨hrest, k, hk, hname, -⟩ := hothers.cons
    obtain ⟨key, v⟩ := e
    cases hk
    exact ih (h.put hname v) hrest

theorem filter_update_key (q : Value → Bool) (es : Entries α) {others : Entries α}
    (hq : ∀ key ∈ others.keys, ∀ k, k.same key = true → q k = q key) :
    (es.update others).filter (fun e => q e.1) =
      update (es.filter fun e => q e.1) (others.filter fun e => q e.1) := by
  induction others generalizing es with
  | nil => rfl
  | cons e others ih =>
    obtain ⟨key, v⟩ := e
    obtain ⟨hkey, hrest⟩ := List.forall_mem_cons.mp hq
    rw [update_cons, ih _ hrest, filter_put_key q es hkey, filter_key_cons]
    by_cases hkept : q key
    · rw [if_pos hkept, if_pos hkept, update_cons]
    · rw [if_neg hkept, if_neg hkept]

theorem update_append (es fs gs : Entries α) : es.update (fs ++ gs) = (es.update fs).update gs :=
  List.foldl_append

/-- Entries under new keys are added behind the others. -/
theorem update_of_apart {es others : Entries α} (h : others.Distinct)
    (hapart : ∀ k ∈ es.keys, ∀ j ∈ others.keys, k.same j = false) :
    es.update others = es ++ others := by
  induction others generalizing es with
  | nil => exact (List.append_nil es).symm
  | cons e others ih =>
    obtain ⟨hfirst, hrest⟩ := List.pairwise_cons.mp h
    obtain ⟨key, v⟩ := e
    rw [update_cons, put_of_apart fun k hk => hapart k hk key List.mem_cons_self,
      ih hrest fun k hk j hj => ?_, List.append_assoc]
    · rfl
    · rw [keys, List.map_append] at hk
      rcases List.mem_append.mp hk with hk | hk
      · exact hapart k hk j (List.mem_cons_of_mem _ hj)
      · obtain rfl : k = key := List.mem_singleton.mp hk
        obtain ⟨f, hf, rfl⟩ := List.mem_map.mp hj
        exact hfirst f hf

theorem ofPairs_of_distinct {es : Entries α} (h : es.Distinct) : ofPairs es = es :=
  update_of_apart h nofun

theorem ofPairs_of_isPlain {es : Entries α} (h : es.IsPlain voc) : ofPairs es = es :=
  ofPairs_of_distinct h.distinct

theorem mem_update {es others : Entries α} {e : Value × α} (h : e ∈ es.update others) :
    e ∈ es ∨ ∃ f ∈ others, e.2 = f.2 := by
  induction others generalizing es with
  | nil => exact .inl h
  | cons f others ih =>
    rcases ih h with hmem | ⟨g, hg, heq⟩
    · rcases mem_put hmem with hmem | heq
      · exact .inl hmem
      · exact .inr ⟨f, List.mem_cons_self, heq⟩
    · exact .inr ⟨g, List.mem_cons_of_mem f hg, heq⟩

theorem mem_keys_update {es others : Entries α} {key : Value} (h : key ∈ (es.update others).keys) :
    key ∈ es.keys ∨ key ∈ others.keys := by
  induction others generalizing es with
  | nil => exact .inl h
  | cons f others ih =>
    rcases ih h with hmem | hmem
    · rcases mem_keys_put hmem with hmem | rfl
      · exact .inl hmem
      · exact .inr List.mem_cons_self
    · exact .inr (List.mem_cons_of_mem _ hmem)

theorem mem_update_of_isPlain {es others : Entries α} (hothers : others.IsPlain voc) {e : Value × α}
    (h : e ∈ es.update others) : e ∈ es ∨ e ∈ others := by
  induction others generalizing es with
  | nil => exact .inl h
  | cons f others ih =>
    obtain ⟨hrest, k, hk, -, -⟩ := hothers.cons
    obtain ⟨key, v⟩ := f
    cases hk
    rcases ih hrest h with hmem | hmem
    · rcases mem_put_str hmem with hmem | rfl
      · exact .inl hmem
      · exact .inr List.mem_cons_self
    · exact .inr (List.mem_cons_of_mem _ hmem)

theorem mem_of_get? {es : Entries α} {j : String} {v : α} (h : es.get? j = some v) :
    (.str j, v) ∈ es := by
  induction es with
  | nil => cases h
  | cons e es ih =>
    obtain ⟨key, w⟩ := e
    rw [get?_cons] at h
    split_ifs at h with hkey
    · cases h
      rw [(isText_iff key j).mp hkey]
      exact List.mem_cons_self
    · exact List.mem_cons_of_mem _ (ih h)

theorem get?_of_mem {es : Entries α} (h : es.IsPlain voc) {j : String} {v : α}
    (hmem : (.str j, v) ∈ es) : es.get? j = some v := by
  induction es with
  | nil => cases hmem
  | cons e es ih =>
    obtain ⟨hrest, k, hk, -, hfresh⟩ := h.cons
    obtain ⟨key, w⟩ := e
    cases hk
    rw [get?_cons_str]
    rcases List.mem_cons.mp hmem with heq | hmem
    · cases heq
      exact if_pos rfl
    · have hne : k ≠ j := fun hkj => hfresh (hkj ▸ List.mem_map_of_mem hmem)
      rw [if_neg hne]
      exact ih hrest hmem

end Entries

end Componentry
