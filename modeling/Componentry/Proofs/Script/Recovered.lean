import Componentry.Proofs.Script.Recovery

/-!
# Only kept nestings are read back

Where an expression is read back from its lexemes, it keeps its nesting. What is read is known to be
the expression regrouped, so each of its parts is known to be the part regrouped, and by induction
the part ends where it was written to end.
-/

namespace Componentry.Script

variable {n m : Node} {ls rest : List Lexeme}

theorem RecoversBase.access {k : String} (h : RecoversBase n ls) (htight : isTight n = true)
    (hunsigned : isUnsigned n = false) (c d : Bool) :
    RecoversBase (.memberExpression n (.identifier (.str k)) (.bool false))
      (ls ++ [⟨.mark '.', c⟩, ⟨.word (settledName k), d⟩]) := by
  intro depth tail m rest ho hbegins
  rw [List.append_assoc] at ho
  obtain ⟨hkept, fuel, hs⟩ := h depth _ m rest ho ((Begins.refl.member _ _).trans hbegins)
  have hkept' : isKept (.memberExpression n (.identifier (.str k)) (.bool false)) = true := by
    rw [isKept_access, hkept, htight, hunsigned]
    rfl
  cases fuel with
  | zero => cases hs
  | succ fuel => exact ⟨hkept', fuel, hs⟩

theorem RecoversBase.selection {a p : Node} {ls' : List Lexeme} {P : Prop}
    (h : RecoversBase n ls) (hp : ∀ depth tail rest,
      expression depth (ls' ++ tail) = some (p, rest) → P ∧ rest = tail)
    (ha : regrouped a = selected (regrouped n) p) (hkept : isKept n = true → P → isKept a = true)
    (c e : Bool) : RecoversBase a (ls ++ ⟨.mark '[', c⟩ :: (ls' ++ [⟨.mark ']', e⟩])) := by
  intro depth tail m rest ho hbegins
  rw [List.append_assoc, List.cons_append, List.append_assoc] at ho
  rw [ha] at hbegins ⊢
  obtain ⟨hn, fuel, hs⟩ := h depth _ m rest ho ((begins_selected _ _).trans hbegins)
  cases fuel with
  | zero => cases hs
  | succ fuel =>
    simp only [suffixed, Option.bind_eq_bind, Option.bind_eq_some_iff, Prod.exists,
      behindMark?_eq_some] at hs
    obtain ⟨q, r, hq, r', ⟨f, rfl⟩, hs⟩ := hs
    obtain rfl := selected_injective ((suffixed_begins hs).eq_of_suffixes hbegins
      ((suffixes_selected _ _).trans (suffixes_selected _ _).symm))
    obtain ⟨hkey, heq⟩ := hp depth _ _ hq
    cases heq
    exact ⟨hkept hn hkey, fuel, hs⟩

theorem RecoversBase.call {as : List Node} {ls' : List Lexeme} (h : RecoversBase n ls)
    (htight : (wrapsCallee n || isTight n) = true)
    (has : (Part.all .expression ')' as).IsRecovered ls') (c : Bool) :
    RecoversBase (.callExpression n as) (ls ++ ⟨.mark '(', c⟩ :: ls') := by
  intro depth tail m rest ho hbegins
  rw [List.append_assoc, List.cons_append] at ho
  obtain ⟨hn, fuel, hs⟩ := h depth _ m rest ho ((Begins.refl.call _).trans hbegins)
  cases fuel with
  | zero => cases hs
  | succ fuel =>
    simp only [suffixed, Option.bind_eq_bind, Option.bind_eq_some_iff, Prod.exists] at hs
    obtain ⟨items, r, hitems, hs⟩ := hs
    have heq : Node.callExpression (regrouped n) items = .callExpression (regrouped n)
        (regroupedAll as) := (suffixed_begins hs).eq_of_suffixes hbegins rfl
    cases heq
    obtain ⟨hkepts, rfl⟩ := has (Or.inr rfl) depth _ tail r hitems
    exact ⟨by rw [isKept, hn, htight, hkepts]; rfl, fuel, hs⟩

theorem IsRecovered.signed {a : Node} {t : Token} {operator : String} {P : Prop}
    (h : ∀ depth tail rest, Script.operand (Script.expression depth) (ls ++ tail) =
      some (regrouped n, rest) → P ∧ rest = tail) (hkept : P → isKept a = true)
    (ht : operator? t = some operator)
    (ha : regrouped a = applied operator (regrouped n)) (htight : isTight a = false) (b : Bool) :
    IsRecovered a (⟨t, b⟩ :: ls) := by
  refine ⟨fun depth tail rest hr => ?_, fun _ depth tail rest hr => ?_,
    fun h => nomatch htight.symm.trans h⟩
  · obtain ⟨d, m, ho, heq⟩ := expression_signed ht hr
    obtain rfl := applied_injective (ha.symm.trans heq)
    obtain ⟨hp, rfl⟩ := h d tail rest ho
    exact ⟨hkept hp, rfl⟩
  · obtain ⟨m, ho, heq⟩ := operand_signed ht hr
    obtain rfl := applied_injective (ha.symm.trans heq)
    obtain ⟨hp, rfl⟩ := h depth tail rest ho
    exact ⟨hkept hp, rfl⟩

theorem IsRecovered.assignment {r : Node} {ls' : List Lexeme} (h : IsRecovered n ls)
    (hfounded : Founded n ls) (htarget : isTarget n = true) (hr : IsRecovered r ls') (c : Bool) :
    IsRecovered (.assignmentExpression (.str "=") n r) (ls ++ ⟨.mark '=', c⟩ :: ls') := by
  refine ⟨fun depth tail rest hread => ?_, nofun, nofun⟩
  rw [List.append_assoc, List.cons_append] at hread
  obtain ⟨d, hread⟩ := readsAt_of_expression hread
  rw [regrouped] at hread
  cases hread with
  | assignment _ hleft _ hright =>
    obtain ⟨hkept, heq⟩ := h.operand (wrapsOperand_of_isTarget htarget) d _ _ hleft
    cases heq
    obtain ⟨hkept', rfl⟩ := hr.expression d tail rest hright
    exact ⟨by rw [isKept, hkept, hkept']; rfl, rfl⟩
  | operand _ ho => cases hfounded.noAssignment d _ _ _ ho

theorem isRecovered_function {ks : List String} {ls' : List Lexeme} {c d : Bool}
    (hks : ∀ k ∈ ks, isBindable k = true)
    (hps : Written c (.all .expression ')' (ks.map fun k => .identifier (.str k))) ls)
    (hbody : Written d (.enclosed (wrapsBody n) n) ls')
    (hblock : ∀ ss, regrouped n ≠ .blockStatement ss) (h : Recovers .expression n ls') (b : Bool) :
    IsRecovered (.arrowFunction (ks.map fun k => .identifier (.str k)) n)
      (⟨.mark '(', b⟩ :: (ls ++ ⟨.arrow, false⟩ :: ls')) := by
  refine ⟨fun depth tail rest hread => ?_, nofun, nofun⟩
  rw [List.cons_append, List.append_assoc, List.cons_append] at hread
  obtain ⟨e, m, heq, hread⟩ := expression_function (hps.arrowHead? hks _) hread
  rw [regrouped] at heq
  cases heq
  obtain ⟨inside, hread⟩ | ⟨hbrace, hread⟩ := hread
  · rw [body] at hread
    simp only [Option.bind_eq_bind, Option.bind_eq_some_iff, Prod.exists, Option.pure_def,
      Option.some.injEq, Prod.mk.injEq] at hread
    obtain ⟨ss, r, -, heq, -⟩ := hread
    exact absurd heq.symm (hblock ss)
  · obtain ⟨hkept, rfl⟩ := h e tail rest hread
    exact ⟨by rw [isKept, hkept, (hbody.behindMark?_body_iff rest).mp hbrace]; rfl, rfl⟩

theorem recovers_property {key : Node} {k : String}
    (hkey : key = .identifier (.str k) ∨ key = .stringLiteral (.str k))
    (h : Recovers .expression n ls) (b c : Bool) :
    Recovers .member (.objectProperty key n (.bool false))
      (⟨keyToken k, b⟩ :: ⟨.mark ':', c⟩ :: ls) := by
  intro depth tail rest hread
  rw [regrouped_property hkey] at hread
  simp only [List.cons_append, itemReader_member, member, key_keyToken, behindMark?_mark,
    Option.bind_eq_bind, Option.bind_eq_some_iff, Option.bind_some, Prod.exists, Option.pure_def,
    Option.some.injEq, Prod.mk.injEq, Node.objectProperty.injEq] at hread
  obtain ⟨v, r, hv, ⟨-, rfl, -⟩, rfl⟩ := hread
  obtain ⟨hkept, rfl⟩ := h depth tail r hv
  exact ⟨by rw [isKept, hkept], rfl⟩

theorem recovers_binding {k : String} (hk : IsName k) (b : Bool) :
    Recovers .member (.objectProperty (.identifier (.str k)) (.identifier (.str k)) (.bool true))
      [⟨.word k, b⟩] := by
  intro depth tail rest hread
  refine ⟨rfl, ?_⟩
  rw [regrouped_binding hk] at hread
  simp only [List.cons_append, List.nil_append, itemReader_member, member, key,
    Option.bind_eq_bind, Option.bind_some] at hread
  split at hread
  · obtain ⟨⟨v, r⟩, -, h⟩ := Option.bind_eq_some_iff.mp hread
    cases h
  · obtain ⟨⟨ps, r⟩, -, h⟩ := Option.bind_eq_some_iff.mp hread
    obtain ⟨inside, -, h⟩ := Option.bind_eq_some_iff.mp h
    obtain ⟨⟨block, r'⟩, -, h⟩ := Option.bind_eq_some_iff.mp h
    cases h
  · split_ifs at hread
    cases hread
    rfl

theorem suffixes_regrouped_member (o p : Node) (c : Value) :
    suffixes (regrouped (.memberExpression o p c)) ≠ 0 := by
  obtain ⟨q, d, h⟩ := regrouped_member o p c
  rw [h]
  exact Nat.succ_ne_zero _

theorem isRecovered_member {p : Node} {c : Value} {ls' : List Lexeme}
    (hfounded : Founded n ls) (h : isTight n = true →
      RecoversBase (.memberExpression n p c) (ls ++ ls')) :
    IsRecovered (.memberExpression n p c) (ls ++ ls') := by
  have hne := suffixes_regrouped_member n p c
  obtain ⟨q, d, hq⟩ := regrouped_member n p c
  exact .of_base (hfounded.member p c ls') (fun _ => hne) (by rw [hq]; rfl) (by rw [hq]; rfl) h

theorem suffixes_of_wrapsOperand (h : wrapsOperand n = true) : suffixes (regrouped n) = 0 := by
  unfold wrapsOperand at h
  split at h
  · rfl
  · rfl
  · next operator a =>
    cases operator with
    | str operator => exact suffixes_applied operator _
    | _ => rfl
  · cases h

theorem isRecovered_operation {operator : String} {t : Token}
    (h : (Part.enclosed (wrapsOperand n) n).IsRecovered ls) (ht : operatorToken? operator = some t)
    (hsigns : operator = "-" → isNegative n = false) (b : Bool) :
    IsRecovered (.unaryExpression (.str operator) n) (⟨t, b⟩ :: ls) := by
  have hoperand : RecoversOperand n ls := by
    cases hw : wrapsOperand n <;> rw [hw] at h
    · exact Script.IsRecovered.operand h hw
    · exact (h (suffixes_of_wrapsOperand hw)).1
  refine .signed hoperand (fun hkept => ?_) (operator?_of_token ht) rfl rfl b
  have hminus : (operator = "-" && isNegative n) = false := by
    rw [Bool.and_eq_false_iff, decide_eq_false_iff_not, or_iff_not_imp_left, not_not]
    exact hsigns
  rw [isKept, hkept, hminus]
  rfl

theorem isRecovered_call {as : List Node} {ls' : List Lexeme}
    (h : (Part.enclosed (wrapsCallee n) n).IsRecovered ls)
    (hfounded : (Part.enclosed (wrapsCallee n) n).Founded ls)
    (has : (Part.all .expression ')' as).IsRecovered ls') (c : Bool) :
    IsRecovered (.callExpression n as) (ls ++ ⟨.mark '(', c⟩ :: ls') := by
  refine .of_base (founded_call hfounded _) (fun _ => Nat.succ_ne_zero _) rfl rfl fun htight => ?_
  rw [isTight] at htight
  refine RecoversBase.call ?_ htight has c
  cases hw : wrapsCallee n <;> rw [hw] at h htight
  · exact Script.IsRecovered.base h htight
  · cases n <;> cases hw
    exact (h rfl).2 rfl

theorem recovers_body (h : (Part.enclosed (wrapsBody n) n).IsRecovered ls) :
    Recovers .expression n ls := by
  cases hw : wrapsBody n <;> rw [hw] at h
  · exact Script.IsRecovered.expression h
  · cases n <;> cases hw
    exact (h rfl).1.expression rfl rfl

theorem Written.regrouped_ne_block {b : Bool} (h : Written b (.one .expression n) ls)
    (ss : List Node) : regrouped n ≠ .blockStatement ss := by
  intro heq
  cases h with
  | word hs =>
    rw [regrouped_of_operandOfWord? hs] at heq
    rcases operandOfWord?_cases hs with rfl | rfl | ⟨b, rfl⟩ | rfl <;> cases heq
  | access | quoted | selection =>
    obtain ⟨q, d, hq⟩ := regrouped_member _ _ _
    cases hq.symm.trans heq
  | @operation operator _ a =>
    obtain ⟨i, -, -, -, h⟩ | h := applied_cases operator (regrouped a) <;> cases h.symm.trans heq
  | _ => cases heq

theorem Written.body_ne_block {b wrap : Bool} (h : Written b (.enclosed wrap n) ls)
    (ss : List Node) : regrouped n ≠ .blockStatement ss := by
  cases h with
  | bare hn => exact hn.regrouped_ne_block ss
  | parenthesised hn => exact hn.regrouped_ne_block ss

/-- What is read back keeps its nesting. -/
theorem Written.isRecovered {b : Bool} {p : Part} (h : Written b p ls) : p.IsRecovered ls := by
  induction h with
  | word hs hop b =>
    obtain ⟨hkept, htight, -, hfunction, hassign⟩ := leaf_of_operandOfWord? hs
    rw [← regrouped_of_operandOfWord? hs] at hfunction hassign
    refine .of_base (Written.word hs hop b).founded (fun h => nomatch htight.symm.trans h) hfunction
      hassign fun _ => recoversBase_leaf hop hkept fun depth tail => ?_
    rw [regrouped_of_operandOfWord? hs]
    exact primary_word hs _ b tail
  | text s b =>
    exact .of_base (Written.text s b).founded nofun rfl rfl fun _ => recoversBase_text s b
  | natural i b =>
    exact .of_base (Written.natural i b).founded (fun h => nomatch (isTight_natural i).symm.trans h)
      rfl rfl fun _ => recoversBase_natural i b
  | negative i b c =>
    exact .signed (recoversBase_natural (i + 1) c).operand (fun _ => rfl) rfl (regrouped_negative i)
      (isTight_negative i) b
  | array hes b ih =>
    exact .of_base (hes.array b).founded nofun rfl rfl fun _ => recoversBase_array ih b
  | object hms b ih =>
    exact .of_base (hms.object b).founded nofun rfl rfl fun _ => recoversBase_object ih b
  | property hkey hv b c ih => exact recovers_property hkey ih.recovers b c
  | binding hk b => exact recovers_binding hk b
  | function hks hps hn b _ ih =>
    exact isRecovered_function hks hps hn hn.body_ne_block (recovers_body ih) b
  | access ho hk hunsigned c d ih =>
    exact isRecovered_member ho.founded fun htight =>
      RecoversBase.access (Script.IsRecovered.base ih htight) htight hunsigned c d
  | @quoted o k _ _ ho hk c d e ih =>
    have hkey : Recovers .expression (.stringLiteral (.str k)) [⟨.text k, d⟩] :=
      (recoversBase_text k d).operand.expression rfl rfl
    refine isRecovered_member ho.founded fun htight => RecoversBase.selection
      (Script.IsRecovered.base ih htight) hkey (regrouped_quoted hk) (fun hn _ => ?_) c e
    rw [isKept_access, hn, htight, followsPoint, hk, Bool.and_false]
    rfl
  | selection ho hp c e iho ihp =>
    refine isRecovered_member ho.founded fun htight => RecoversBase.selection
      (Script.IsRecovered.base iho htight) (Script.IsRecovered.expression ihp) rfl
      (fun hn hp => ?_) c e
    rw [isKept, hn, htight, hp]
    rfl
  | operation ht ha hsigns b ih => exact isRecovered_operation ih ht hsigns b
  | assignment hl htarget hr c ihl ihr =>
    exact Script.IsRecovered.assignment ihl hl.founded htarget ihr c
  | call hn has c ihn ihas => exact isRecovered_call ihn hn.founded ihas c
  | bare hn ih => exact ih
  | parenthesised hn b d ih => exact isRecovered_parenthesised ih hn.founded b d
  | nil role close b => exact isRecovered_nil role close b
  | last hn close c ih => exact isRecovered_last ih close c
  | next hn hns c ihn ihns => exact isRecovered_next (List.cons_ne_nil _ _) ihn ihns c

end Componentry.Script
