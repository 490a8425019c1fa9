import Componentry.Proofs.Script.Together

/-!
# Kept nestings are read back

An expression that keeps its nesting is read from its lexemes as the expression that it is. The
induction follows the lexemes: an operand that holds together leaves what follows it to the accesses
and calls around it, and everything else is read up to where it has to stop.
-/

namespace Componentry.Script

variable {n m : Node} {ls tail : List Lexeme}

theorem parameter_word {k : String} (hk : isBindable k = true) (b : Bool) (rest : List Lexeme) :
    parameter (⟨.word k, b⟩ :: rest) = some (.identifier (.str k), rest) := if_pos hk

theorem word_of_identifier {s k : String} (h : operandOfWord? s = some (.identifier (.str k))) :
    s = k := by
  rcases operandOfWord?_cases h with h | h | ⟨b, h⟩ | h <;> cases h
  rfl

theorem Written.parameters_eq {ks : List String} {b : Bool}
    (h : Written b (.all .expression ')' (ks.map fun k => .identifier (.str k))) ls)
    (hks : ∀ k ∈ ks, isBindable k = true) (tail : List Lexeme) (fuel : Nat)
    (hf : ls.length ≤ fuel) : separated parameter ')' fuel (ls ++ tail) =
      some (ks.map fun k => .identifier (.str k), tail) := by
  induction ks generalizing ls b fuel with
  | nil =>
    cases h
    obtain ⟨fuel, rfl⟩ : ∃ k, fuel = k + 1 := Nat.exists_eq_add_of_le' hf
    exact separated_close _ _ _ _ _
  | cons k ks ih =>
    have hk := hks k List.mem_cons_self
    cases ks with
    | nil =>
      cases h with
      | last hn close c =>
        cases hn with
        | word hs =>
          obtain rfl := word_of_identifier hs
          obtain ⟨fuel, rfl⟩ : ∃ k, fuel = k + 1 := Nat.exists_eq_add_of_le' (Nat.le_of_succ_le hf)
          exact separated_last nofun (by decide) (parameter_word hk b _)
    | cons k' ks =>
      cases h with
      | next hn hns c =>
        cases hn with
        | word hs =>
          obtain rfl := word_of_identifier hs
          simp only [List.length_append, List.length_cons, List.length_nil] at hf
          obtain ⟨fuel, rfl⟩ : ∃ k, fuel = k + 1 := Nat.exists_eq_add_of_le' (by omega)
          have hrest := ih hns (fun k hk => hks k (List.mem_cons_of_mem _ hk)) fuel (by omega)
          exact separated_next nofun (parameter_word hk b _) hrest

/-- The body of a function is taken for a block where it begins with a brace. -/
theorem Written.behindMark?_body_iff {b : Bool} (h : Written b (.enclosed (wrapsBody n) n) ls)
    (tail : List Lexeme) : behindMark? '\x7b' (ls ++ tail) = none ↔
      (wrapsBody n || leading n ≠ some (.mark '\x7b')) = true := by
  obtain ⟨t, more, rfl, ht⟩ := h.heads
  have hmark : behindMark? '\x7b' (⟨t, b⟩ :: (more ++ tail)) = none ↔ t ≠ .mark '\x7b' := by
    constructor
    · rintro hnone rfl
      cases hnone
    · exact fun hne => behindMark?_of_ne hne b _
  rw [List.cons_append, hmark]
  cases hw : wrapsBody n <;> rw [hw] at ht
  · rw [show leading n = some t from ht]
    simp
  · rw [show t = .mark '(' from ht]
    simp

theorem Written.arrowHead? {ks : List String} {b c : Bool}
    (h : Written c (.all .expression ')' (ks.map fun k => .identifier (.str k))) ls)
    (hks : ∀ k ∈ ks, isBindable k = true) (rest : List Lexeme) :
    Script.arrowHead? (⟨.mark '(', b⟩ :: (ls ++ ⟨.arrow, false⟩ :: rest)) =
      some (ks.map fun k => .identifier (.str k), rest) := by
  have hps := h.parameters_eq hks (⟨.arrow, false⟩ :: rest)
    ((ls ++ ⟨.arrow, false⟩ :: rest).length + 1) (by rw [List.length_append]; omega)
  simp only [Script.arrowHead?, behindMark?_mark, parameters, hps]

theorem readsBack_function {ks : List String} {ls' : List Lexeme} {c d : Bool}
    (hks : ∀ k ∈ ks, isBindable k = true)
    (hps : Written c (.all .expression ')' (ks.map fun k => .identifier (.str k))) ls)
    (hbody : Written d (.enclosed (wrapsBody n) n) ls') (h : ReadsBack .expression n ls')
    (hn : (wrapsBody n || leading n ≠ some (.mark '\x7b')) = true) (b : Bool) :
    ReadsBack .expression (.arrowFunction (ks.map fun k => .identifier (.str k)) n)
      (⟨.mark '(', b⟩ :: (ls ++ ⟨.arrow, false⟩ :: ls')) := by
  intro depth tail hd htail
  simp only [List.length_cons, List.length_append] at hd
  obtain ⟨depth, rfl⟩ : ∃ k, depth = k + 1 := Nat.exists_eq_add_of_le' (by omega)
  have hr : expression depth (ls' ++ tail) = _ := h depth tail (by omega) htail
  simp only [List.cons_append, List.append_assoc, itemReader_expression, expression, expressionOver,
    hps.arrowHead? hks, (hbody.behindMark?_body_iff tail).mpr hn, hr, Option.bind_eq_bind,
    Option.bind_some, Option.pure_def, regrouped]

theorem regrouped_property {key v : Node} {k : String}
    (hkey : key = .identifier (.str k) ∨ key = .stringLiteral (.str k)) (shorthand : Value) :
    regrouped (.objectProperty key v shorthand) =
      .objectProperty (reread (.key k)) (regrouped v) shorthand := by
  rcases hkey with rfl | rfl <;> rw [regrouped]

theorem readsBack_property {key : Node} {k : String}
    (hkey : key = .identifier (.str k) ∨ key = .stringLiteral (.str k))
    (h : ReadsBack .expression n ls) (b c : Bool) :
    ReadsBack .member (.objectProperty key n (.bool false))
      (⟨keyToken k, b⟩ :: ⟨.mark ':', c⟩ :: ls) := by
  intro depth tail hd htail
  simp only [List.length_cons] at hd
  have hr : expression depth (ls ++ tail) = _ := h depth tail (by omega) (Stops.expression htail)
  simp only [List.cons_append, itemReader_member, member, key_keyToken, behindMark?_mark, hr,
    Option.bind_eq_bind, Option.bind_some, Option.pure_def, regrouped_property hkey]

theorem regrouped_binding {k : String} (hk : IsName k) (shorthand : Value) :
    regrouped (.objectProperty (.identifier (.str k)) (.identifier (.str k)) shorthand) =
      .objectProperty (.identifier (.str k)) (.identifier (.str k)) shorthand := by
  rw [regrouped_property (Or.inl rfl), reread_key, if_pos hk.1, settledName_of_not_mem hk.2.1]
  rfl

theorem readsBack_binding {k : String} (hk : IsName k) (b : Bool) :
    ReadsBack .member (.objectProperty (.identifier (.str k)) (.identifier (.str k)) (.bool true))
      [⟨.word k, b⟩] := by
  intro depth tail hd htail
  rw [regrouped_binding hk, List.singleton_append]
  exact member_binding rfl hk.2.2 htail

theorem Written.ne_nil {b : Bool} {p : Part} (h : Written b p ls) : ls ≠ [] := by
  obtain ⟨t, more, rfl, -⟩ := h.heads
  exact List.cons_ne_nil _ _

theorem isTight_of_isTarget (h : isTarget n = true) (hn : isKept n = true) : isTight n = true := by
  unfold isTarget at h
  split at h
  · rfl
  · exact (isTight_of_isKept hn).2
  · cases h

theorem wrapsOperand_cases (h : wrapsOperand n = false) :
    (isFunction n || isAssignment n) = false := by
  cases n <;> first | rfl | cases h

/-- What keeps its nesting is read back. -/
theorem Written.isReadBack {b : Bool} {p : Part} (h : Written b p ls) : p.IsReadBack ls := by
  induction h with
  | word hs hop b =>
    exact fun _ => (holdsTogether_word hs hop b).isReadBack (List.cons_ne_nil _ _)
  | text s b => exact fun _ => (holdsTogether_text s b).isReadBack (List.cons_ne_nil _ _)
  | natural i b => exact fun _ => (holdsTogether_natural i b).isReadBack (List.cons_ne_nil _ _)
  | negative i b c =>
    exact fun _ => ((holdsTogether_natural (i + 1) c).isOperand.operation rfl (regrouped_negative i)
      b).isReadBack (List.cons_ne_nil _ _) (isTight_negative i)
  | array hes b ih =>
    exact fun hkept => (holdsTogether_array hkept ih b).isReadBack (List.cons_ne_nil _ _)
  | object hms b ih =>
    exact fun hkept => (holdsTogether_object hkept ih b).isReadBack (List.cons_ne_nil _ _)
  | property hkey hv b c ih => exact fun hkept => readsBack_property hkey (ih hkept).readsBack b c
  | binding hk b => exact fun _ => readsBack_binding hk b
  | function hks hps hn b _ ih =>
    intro hkept
    obtain ⟨hbody, hbrace⟩ := (Bool.and_eq_true _ _).mp hkept
    exact (readsBack_function hks hps hn (ih.enclosed hbody hn.ne_nil) hbrace b).isReadBack rfl rfl
  | access ho hk hunsigned c d ih =>
    intro hkept
    obtain ⟨hkept, htight⟩ := isTight_of_isKept hkept
    exact (((ih hkept).holdsTogether htight).access _ c d).isReadBack
      (List.append_ne_nil_of_left_ne_nil ho.ne_nil _)
  | @quoted _ k _ _ ho hk c d e ih =>
    intro hkept
    obtain ⟨hkept, htight⟩ := isTight_of_isKept hkept
    have hkey := ((holdsTogether_text k d).isReadBack (List.cons_ne_nil _ _)).readsBack
    exact (((ih hkept).holdsTogether htight).selection hkey (regrouped_quoted hk) c e).isReadBack
      (List.append_ne_nil_of_left_ne_nil ho.ne_nil _)
  | selection ho hp c e iho ihp =>
    intro hkept
    rw [isKept, Bool.and_eq_true, Bool.and_eq_true] at hkept
    exact (((iho hkept.1.1).holdsTogether hkept.1.2).selection (ihp hkept.2).readsBack rfl c
      e).isReadBack (List.append_ne_nil_of_left_ne_nil ho.ne_nil _)
  | @operation operator t a ls _ ht ha hsigns b ih =>
    intro hkept
    obtain ⟨hkept, -⟩ := (Bool.and_eq_true _ _).mp hkept
    have hoperand : IsOperand a ls := by
      cases hw : wrapsOperand a <;> rw [hw] at ih
      · exact (ih hkept).isOperand (wrapsOperand_cases hw)
      · exact (ih hkept).isOperand
    exact (hoperand.operation (operator?_of_token ht) rfl b).isReadBack (List.cons_ne_nil _ _) rfl
  | assignment hl htarget hr c ihl ihr =>
    intro hkept
    obtain ⟨hkeptl, hkeptr⟩ := (Bool.and_eq_true _ _).mp hkept
    have htight := (ihl hkeptl).holdsTogether (isTight_of_isTarget htarget hkeptl)
    exact ReadsBack.isReadBack (htight.assignment htarget (ihr hkeptr).readsBack c) rfl rfl
  | @call n as ls _ _ _ hn has c ihn ihas =>
    intro hkept
    rw [isKept, Bool.and_eq_true, Bool.and_eq_true] at hkept
    obtain ⟨⟨hkept, htight⟩, hkepts⟩ := hkept
    have htogether : HoldsTogether n ls := by
      cases hw : wrapsCallee n <;> rw [hw] at ihn htight
      · exact (ihn hkept).holdsTogether htight
      · exact ihn hkept
    exact (htogether.call hkepts ihas c).isReadBack
      (List.append_ne_nil_of_left_ne_nil hn.ne_nil _)
  | bare hn ih => exact ih
  | parenthesised hn b d ih =>
    exact fun hkept => holdsTogether_parenthesised (ih hkept).readsBack b d
  | nil role close b =>
    intro _ _ depth fuel tail _ hf
    obtain ⟨fuel, rfl⟩ : ∃ k, fuel = k + 1 := Nat.exists_eq_add_of_le' hf
    exact separated_close _ _ _ _ _
  | last hn close c ih => exact isReadBack_last ih close c
  | next hn hns c ihn ihns => exact isReadBack_next ihn ihns c

end Componentry.Script
