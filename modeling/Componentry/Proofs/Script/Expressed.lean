import Componentry.Proofs.Script.Signed
import Componentry.Proofs.Script.Tree

/-!
# Printed expressions have their lexemes

With room for every margin, an expression whose numbers can be written is printed as a text that
has the lexemes it is written with, or none where it does not keep its nesting. The induction
follows the constructs of expressions.
-/

namespace Componentry.Script

variable {n : Node}

/-- A node of some role is printed as a text of it. -/
def IsSpelled (style : Style) (n : Node) : Role → Prop
  | .expression => ∀ level, ∃ s, printNode style level n = .ok (.str s) ∧ Spelled n s.toList
  | .member => ∀ level, ∃ s, printMember style level n = .ok s ∧ LexedItem .member n s.toList
  | .statement => True

section

variable {style : Style} {ind : String}

theorem spelled_items {es : List Node} (h : ∀ e ∈ es, IsSpelled style e .expression) (level : Nat) :
    ∃ ss : List String, printNodes style level es = .ok (ss.map .str) ∧
      List.Forall₂ (fun s e => LexedItem .expression e s.toList) ss es := by
  refine printNodes_texts fun e he => ?_
  obtain ⟨s, hprint, hs⟩ := h e he level
  exact ⟨s, hprint, fun b rest hrest => hs.separate b hrest⟩

theorem isSpelled_array (hstyle : style.Readable ind) {es : List Node}
    (h : ∀ e ∈ es, IsSpelled style e .expression) :
    IsSpelled style (.arrayExpression es) .expression := by
  intro level
  have hclose : ']' ∈ brackets := by decide
  cases hflat : es.any breaksArray with
  | true =>
    obtain ⟨ss, hprint, hitems⟩ := spelled_items h (level + 1)
    have hss : ss ≠ [] := mt (forall₂_eq_nil_iff hitems).mp (by rintro rfl; cases hflat)
    refine ⟨_, printNode_array_broken hflat hstyle.indents hprint, ?_⟩
    rw [toList_broken]
    exact spelled_array (lexedList_lines (isBlank_repeated hstyle.blank _)
      (isBlank_repeated hstyle.blank _) hclose hitems hss)
  | false =>
    obtain ⟨ss, hprint, hitems⟩ := spelled_items h level
    have hlist := spelled_array (lexedList_inline hclose hitems)
    by_cases hne : es = []
    · subst hne
      cases hitems
      exact ⟨"[]", rfl, hlist⟩
    · refine ⟨_, printNode_array_inline hne hflat hprint, ?_⟩
      rw [String.append_assoc, String.toList_append, String.toList_append]
      exact hlist

theorem isSpelled_object (hstyle : style.Readable ind) {ms : List Node}
    (h : ∀ m ∈ ms, IsSpelled style m .member) :
    IsSpelled style (.objectExpression ms) .expression := by
  intro level
  have hclose : '\x7d' ∈ brackets := by decide
  by_cases hne : ms = []
  · subst hne
    exact ⟨"\x7b\x7d", rfl, spelled_object (lexedList_nil .member hclose)⟩
  · obtain ⟨ss, hprint, hitems⟩ := printMembers_texts fun m hm => h m hm (level + 1)
    refine ⟨_, printNode_object hne hstyle.indents hprint, ?_⟩
    rw [toList_broken]
    exact spelled_object (lexedList_lines (isBlank_repeated hstyle.blank _)
      (isBlank_repeated hstyle.blank _) hclose hitems (mt (forall₂_eq_nil_iff hitems).mp hne))

theorem spelled_decimal (i : Int) :
    Spelled (.numericLiteral (.int i)) (Text.decimal i).toList := by
  unfold Text.decimal
  split_ifs with h
  · obtain ⟨n, rfl⟩ : ∃ n : Nat, i = -(n + 1 : Nat) := ⟨i.natAbs - 1, by omega⟩
    simp only [Int.natAbs_neg, Int.natAbs_natCast, String.toList_append, Text.natural,
      String.toList_ofList]
    exact spelled_negative n
  · obtain ⟨n, rfl⟩ : ∃ n : Nat, i = n := ⟨i.natAbs, by omega⟩
    rw [Int.natAbs_natCast, Text.natural, String.toList_ofList]
    exact spelled_natural n

theorem isSpelled_number {i : Int} (hi : Text.IsShort i) :
    IsSpelled style (.numericLiteral (.int i)) .expression :=
  fun _ => ⟨_, printNode_numeral (numeral_int hi), spelled_decimal i⟩

theorem isSpelled_function {ks : List String} {b : Node}
    (hks : ∀ k ∈ ks, IsName k ∧ isBindable k = true) (hb : IsSpelled style b .expression) :
    IsSpelled style (.arrowFunction (ks.map fun k => .identifier (.str k)) b) .expression := by
  intro level
  have hnames : ∀ p ∈ ks.map fun k => Node.identifier (.str k), IsSpelled style p .expression := by
    intro p hp
    obtain ⟨k, hk, rfl⟩ := List.mem_map.mp hp
    exact fun level => ⟨k, rfl, spelled_name (hks k hk).1⟩
  obtain ⟨ss, hprint, hitems⟩ := spelled_items hnames level
  obtain ⟨s, hs, hspelled⟩ := hb level
  refine ⟨_, printNode_arrowFunction hprint hs, ?_⟩
  have := spelled_function (fun k hk => (hks k hk).2) (lexedList_inline (by decide) hitems)
    (hspelled.enclosed (wrapsBody b))
  simpa using this

theorem isSpelled_access (hstyle : style.Readable ind) {o : Node}
    (ho : IsSpelled style o .expression) (k : String) :
    IsSpelled style (.memberExpression o (.identifier (.str k)) (.bool false)) .expression := by
  intro level
  obtain ⟨s, hs, hspelled⟩ := ho level
  refine ⟨_, printNode_access hs k, ?_⟩
  rw [writtenAccess, String.toList_append]
  cases hk : Naming.isIdentifierName k with
  | true => simpa using hspelled.access hk
  | false => simpa using hspelled.quoted hstyle.quote hk

/-- An expression whose numbers can be written is printed as a text that has its lexemes. -/
theorem Nested.isSpelled {role : Role} (h : Nested role n) (hstyle : style.Readable ind)
    (hnumerals : n.Everywhere Node.HasNumeral) : IsSpelled style n role := by
  induction h with
  | this =>
    exact fun _ => ⟨"this", rfl, spelled_word rfl (List.all_eq_true.mp (by decide)) rfl rfl⟩
  | null =>
    exact fun _ => ⟨"null", rfl, spelled_word rfl (List.all_eq_true.mp (by decide)) rfl rfl⟩
  | bool b =>
    cases b with
    | true =>
      exact fun _ => ⟨"true", rfl, spelled_word rfl (List.all_eq_true.mp (by decide)) rfl rfl⟩
    | false =>
      exact fun _ => ⟨"false", rfl, spelled_word rfl (List.all_eq_true.mp (by decide)) rfl rfl⟩
  | number i =>
    obtain ⟨s, hs⟩ := hnumerals.here
    exact isSpelled_number (numeral_int_eq_ok hs).1
  | text s =>
    refine fun _ => ⟨_, rfl, ?_⟩
    rw [String.toList_ofList]
    exact spelled_text hstyle.quote s
  | name hk => exact fun _ => ⟨_, rfl, spelled_name hk⟩
  | array hes ih => exact isSpelled_array hstyle fun e he => ih e he (hnumerals.children e he)
  | object hms ih => exact isSpelled_object hstyle fun m hm => ih m hm (hnumerals.children m hm)
  | property hkey hv ih =>
    intro level
    have hvalue := hnumerals.children _ (List.mem_cons_of_mem _ List.mem_cons_self)
    obtain ⟨s, hs, hspelled⟩ := ih hvalue level
    refine ⟨_, printMember_keyed hkey hs, ?_⟩
    rw [String.append_assoc, String.toList_append, String.toList_append]
    exact lexedItem_property hstyle.quote hkey hspelled
  | binding hk => exact fun _ => ⟨_, printMember_binding hk.1, lexedItem_binding hk⟩
  | function hks hb ih =>
    exact isSpelled_function hks (ih (hnumerals.children _ List.mem_cons_self))
  | access ho k ih =>
    exact isSpelled_access hstyle (ih (hnumerals.children _ List.mem_cons_self)) k
  | selection ho hp iho ihp =>
    intro level
    have hinside := hnumerals.children _ (List.mem_cons_of_mem _ List.mem_cons_self)
    obtain ⟨s, hs, hobject⟩ := iho (hnumerals.children _ List.mem_cons_self) level
    obtain ⟨t, ht, hproperty⟩ := ihp hinside level
    refine ⟨_, printNode_selection hs ht, ?_⟩
    simpa using hobject.selection hproperty
  | operation ht ha ih =>
    intro level
    obtain ⟨s, hs, hspelled⟩ := ih (hnumerals.children _ List.mem_cons_self) level
    exact ⟨_, printNode_unaryExpression _ hs, hspelled.operation ht⟩
  | assignment hl htarget hr ihl ihr =>
    intro level
    have hassigned := hnumerals.children _ (List.mem_cons_of_mem _ List.mem_cons_self)
    obtain ⟨s, hs, hleft⟩ := ihl (hnumerals.children _ List.mem_cons_self) level
    obtain ⟨t, ht, hright⟩ := ihr hassigned level
    refine ⟨_, printNode_assignmentExpression hs ht, ?_⟩
    simpa using hleft.assignment htarget hright
  | @call c as hc has ihc ihas =>
    intro level
    have harguments : ∀ a ∈ as, IsSpelled style a .expression := fun a ha =>
      ihas a ha (hnumerals.children a (List.mem_cons_of_mem _ ha))
    obtain ⟨s, hs, hcallee⟩ := ihc (hnumerals.children _ List.mem_cons_self) level
    obtain ⟨ss, hprint, hitems⟩ := spelled_items harguments level
    refine ⟨_, printNode_callExpression hs hprint, ?_⟩
    have := spelled_call (hcallee.enclosed (wrapsCallee c)) (lexedList_inline (by decide) hitems)
    simpa using this

end

end Componentry.Script
