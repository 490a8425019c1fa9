import Componentry.Proofs.Script.Carried
import Componentry.Proofs.Script.Delimited
import Componentry.Proofs.Text.Tidy

/-!
# Printed declarations are tidy

Whatever a declaration holds, and however deep, no line of its printed text ends in a blank and no
two lines in a row are empty. The one line feed that does not come from the layout is that behind a
bare name; it may leave one line empty.
-/

namespace Componentry.Script

open Text (Leads anywhere solidly leads_char leads_of_not_mem leads_of_not_blank leads_solid)
open Text.Ending (Settled)

/-- A text may stand anywhere, and `q` holds of its ending. -/
def Ends (q : Text.Ending → Prop) (s : String) : Prop := Leads anywhere s.toList q

namespace Ends

variable {q r : Text.Ending → Prop} {s t : String}

theorem append (hs : Ends q s) (ht : Leads q t.toList r) : Ends r (s ++ t) := by
  rw [Ends, String.toList_append]
  exact Leads.append hs ht

theorem behind (ht : Ends r t) (hs : Ends q s) : Ends r (s ++ t) :=
  hs.append (ht.strengthen fun _ _ => trivial)

theorem of_not_mem (h : '\n' ∉ s.toList) : Ends anywhere s := leads_of_not_mem h

theorem of_not_blank (hne : s.toList ≠ []) (h : s.toList.all (!Text.isBlank ·) = true) :
    Ends solidly s :=
  leads_of_not_blank hne fun c hc => (Bool.not_eq_true' _).mp (List.all_eq_true.mp h c hc)

theorem settled (h : Ends solidly s) : Ends Settled s := h.weaken fun _ => .inl

theorem join {sep : String} (hsep : '\n' ∉ sep.toList) {ss : List String}
    (h : ∀ s ∈ ss, Ends Settled s) : Ends anywhere (Text.join sep ss) := by
  by_cases hne : ss = []
  · subst hne
    exact of_not_mem (s := "") (by decide)
  · exact (Text.leads_join (leads_of_not_mem hsep) h hne).weaken fun _ _ => trivial

/-- Items on lines of their own: each line ends with an item and what separates items. -/
theorem broken {opening closing separator inner outer : String} {ss : List String}
    (hinner : '\n' ∉ inner.toList) (houter : '\n' ∉ outer.toList) (h : ∀ s ∈ ss, Ends Settled s)
    (hne : ss ≠ []) (hopening : Ends solidly opening) (hclosing : Ends solidly closing)
    (hseparator : Leads Settled separator.toList Settled) :
    Ends solidly (Script.broken opening closing separator inner outer ss) := by
  have hitems : ∀ s ∈ ss.map (inner ++ ·), Ends Settled s :=
    List.forall_mem_map.mpr fun s hs => (h s hs).behind (of_not_mem hinner)
  have hlineFeed : Leads Settled "\n".toList anywhere := Text.leads_lineFeed
  have hsep : Leads Settled (separator ++ "\n").toList anywhere := by
    rw [String.toList_append]
    exact hseparator.append hlineFeed
  have hjoin : Ends Settled (Text.join (separator ++ "\n") (ss.map (inner ++ ·))) :=
    Text.leads_join hsep hitems (mt List.map_eq_nil_iff.mp hne)
  have hbody := hjoin.behind (hopening.settled.append hlineFeed)
  exact hclosing.behind ((of_not_mem houter).behind (hbody.append hlineFeed))

end Ends

theorem isBlank_quote {quote : Char} (hq : IsQuote quote) : Text.isBlank quote = false := by
  rcases hq with rfl | rfl <;> decide

theorem ends_quoted {quote : Char} (hq : IsQuote quote) (s : String) :
    Ends solidly (String.ofList (quoted quote s.toList)) := by
  rw [Ends, String.toList_ofList, quoted, ← List.cons_append]
  refine leads_solid ?_ (isBlank_quote hq)
  rw [List.mem_cons, List.mem_flatMap]
  rintro (rfl | ⟨c, -, hc⟩)
  · cases isBlank_quote hq
  · exact absurd (isOnLine_of_mem_escaped hq hc) (by decide)

/-- A bare name may end with a line feed; there is only one, and something stands before it. -/
theorem ends_name {s : String} (h : Naming.isIdentifierName s = true) : Ends Settled s := by
  obtain ⟨name, ws, heq, hws, hb, hc, -⟩ := bareName_parts h
  have hname : Leads anywhere name solidly := by
    refine leads_of_not_blank ?_ fun c hmem =>
      Text.isBlank_of_graphic (toNat_of_continuesName (hc c hmem))
    rintro rfl
    cases hb
  rw [Ends, heq]
  rcases hws with rfl | rfl
  · rw [List.append_nil]
    exact hname.settled
  · exact hname.append Text.leads_lineEnd

theorem ends_writtenKey {quote : Char} (hq : IsQuote quote) (k : String) :
    Ends Settled (writtenKey quote k) := by
  unfold writtenKey
  split_ifs with h
  · exact ends_name h
  · exact (ends_quoted hq k).settled

theorem ends_writtenAccess {quote : Char} (hq : IsQuote quote) (k : String) :
    Ends Settled (writtenAccess quote k) := by
  unfold writtenAccess
  split_ifs with h
  · exact (ends_name h).behind (.of_not_mem (s := ".") (by decide))
  · have hclosing : Ends solidly "]" := .of_not_blank (by decide) (by decide)
    exact (hclosing.behind ((ends_quoted hq k).behind
      (.of_not_mem (s := "[") (by decide)))).settled

theorem ends_numeral {v : Value} (h : IsNumber v) {s : String} (hs : numeral v = .ok s) :
    Ends solidly s :=
  have hnumeral := isNumeral_numeral h hs
  leads_of_not_blank hnumeral.ne_nil fun c hc =>
    Text.isBlank_of_graphic (toNat_of_isNumeralChar (hnumeral.all c hc))

theorem leads_terminator {cs : List Char} (h : IsTerminator cs) {q : Text.Ending → Prop}
    (hq : ∀ e, solidly e → q e) : Leads q cs q := by
  rcases h with rfl | rfl
  · exact Text.leads_nil
  · exact (leads_char (by decide)).weaken hq

/-- The printed text of a node may stand anywhere on a line, and the line may end behind it. -/
def EndsSettled (style : Style) (n : Node) : Role → Prop
  | .member => ∀ level, ∃ s, printMember style level n = .ok s ∧ Ends Settled s
  | _ => ∀ level, ∃ s, printNode style level n = .ok (.str s) ∧ Ends Settled s

section

variable {style : Style} {ind : String}

theorem forall_mem_of_forall₂ {α β : Type} {p : α → Prop} {as : List α} {bs : List β}
    (h : List.Forall₂ (fun a _ => p a) as bs) : ∀ a ∈ as, p a := by
  induction h with
  | nil => nofun
  | cons ha _ ih => exact List.forall_mem_cons.mpr ⟨ha, ih⟩

theorem ends_nodes {ns : List Node} {level : Nat}
    (h : ∀ n ∈ ns, ∃ s, printNode style level n = .ok (.str s) ∧ Ends Settled s) :
    ∃ ss : List String, printNodes style level ns = .ok (ss.map .str) ∧ (ss = [] ↔ ns = []) ∧
      ∀ s ∈ ss, Ends Settled s := by
  obtain ⟨ss, hprint, hends⟩ := printNodes_texts (P := fun s _ => Ends Settled s) h
  exact ⟨ss, hprint, forall₂_eq_nil_iff hends, forall_mem_of_forall₂ hends⟩

theorem ends_array (hstyle : style.Readable ind) (hind : '\n' ∉ ind.toList) {es : List Node}
    (h : ∀ e ∈ es, EndsSettled style e .expression) :
    EndsSettled style (.arrayExpression es) .expression := by
  intro level
  have hclosing : Ends solidly "]" := .of_not_blank (by decide) (by decide)
  cases hflat : es.any breaksArray with
  | true =>
    obtain ⟨ss, hprint, hnil, hends⟩ := ends_nodes fun n hn => h n hn (level + 1)
    have hss : ss ≠ [] := mt hnil.mp (by rintro rfl; cases hflat)
    exact ⟨_, printNode_array_broken hflat hstyle.indents hprint,
      (Ends.broken (Text.not_mem_repeated hind _) (Text.not_mem_repeated hind _) hends hss
        (.of_not_blank (by decide) (by decide)) hclosing
        (leads_char (by decide)).settled).settled⟩
  | false =>
    obtain ⟨ss, hprint, -, hends⟩ := ends_nodes fun n hn => h n hn level
    by_cases hne : es = []
    · subst hne
      exact ⟨"[]", rfl, (Ends.of_not_blank (by decide) (by decide)).settled⟩
    · exact ⟨_, printNode_array_inline hne hflat hprint, (hclosing.behind
        ((Ends.join (by decide) hends).behind (.of_not_mem (s := "[") (by decide)))).settled⟩

/-- Below an object, a line feed starts a line of its own. -/
theorem ends_object (hstyle : style.Readable ind) (hind : '\n' ∉ ind.toList) {ms : List Node}
    (h : ∀ m ∈ ms, EndsSettled style m .member) (level : Nat) :
    ∃ s, printNode style level (.objectExpression ms) = .ok (.str s) ∧ Ends solidly s := by
  by_cases hne : ms = []
  · subst hne
    exact ⟨"\x7b\x7d", rfl, .of_not_blank (by decide) (by decide)⟩
  · obtain ⟨ss, hprint, hends⟩ := printMembers_texts (P := fun s _ => Ends Settled s)
      fun m hm => h m hm (level + 1)
    exact ⟨_, printNode_object hne hstyle.indents hprint,
      Ends.broken (Text.not_mem_repeated hind _) (Text.not_mem_repeated hind _)
        (forall_mem_of_forall₂ hends) (mt (forall₂_eq_nil_iff hends).mp hne)
        (.of_not_blank (by decide) (by decide)) (.of_not_blank (by decide) (by decide))
        (leads_char (by decide)).settled⟩

theorem ends_function {e : Node} (h : EndsSettled style e .expression) :
    EndsSettled style (.arrowFunction [] e) .expression := by
  intro level
  obtain ⟨s, hs, hends⟩ := h level
  refine ⟨_, printNode_function hs, Ends.behind ?_ (.of_not_mem (by decide))⟩
  cases wrapsBody e with
  | true =>
    have hclosing : Ends solidly ")" := .of_not_blank (by decide) (by decide)
    exact (hclosing.behind (hends.behind (.of_not_mem (s := "(") (by decide)))).settled
  | false => exact hends

theorem ends_property (hstyle : style.Readable ind) (k : String) {v : Node}
    (h : EndsSettled style v .expression) :
    EndsSettled style (.objectProperty (.key k) v (.bool false)) .member := by
  intro level
  obtain ⟨s, hs, hends⟩ := h level
  exact ⟨_, printMember_property k hs, hends.behind
    ((Ends.of_not_mem (s := ": ") (by decide)).behind (ends_writtenKey hstyle.quote k))⟩

theorem ends_method (hstyle : style.Readable ind) (hind : '\n' ∉ ind.toList) (k : String)
    {ss : List Node} (h : ∀ s ∈ ss, EndsSettled style s .statement) :
    EndsSettled style (.objectMethod (.key k) [] (.blockStatement ss)) .member := by
  intro level
  have hbody : ∃ s, printBody style level (.blockStatement ss) = .ok s ∧ Ends solidly s := by
    by_cases hne : ss = []
    · subst hne
      exact ⟨"\x7b\x7d", rfl, .of_not_blank (by decide) (by decide)⟩
    · obtain ⟨texts, hprint, hnil, hends⟩ := ends_nodes fun n hn => h n hn (level + 1)
      exact ⟨_, printBody_block hne hstyle.indents hprint,
        Ends.broken (Text.not_mem_repeated hind _) (Text.not_mem_repeated hind _) hends
          (mt hnil.mp hne) (.of_not_blank (by decide) (by decide))
          (.of_not_blank (by decide) (by decide)) Text.leads_nil⟩
  obtain ⟨s, hs, hends⟩ := hbody
  have hopen : Ends anywhere "(" := .of_not_mem (by decide)
  have hempty : Ends anywhere "" := .of_not_mem (by decide)
  have hclose : Ends anywhere ") " := .of_not_mem (by decide)
  exact ⟨_, printMember_method k hs, (hends.behind (hclose.behind (hempty.behind
    (hopen.behind (ends_writtenKey hstyle.quote k))))).settled⟩

theorem ends_terminated (hstyle : style.Readable ind) {s : String} (h : Ends Settled s) :
    Ends Settled (s ++ style.terminator) :=
  h.append (leads_terminator hstyle.terminator fun _ => .inl)

theorem ends_return (hstyle : style.Readable ind) {e : Node}
    (h : EndsSettled style e .expression) :
    EndsSettled style (.returnStatement (some e)) .statement := by
  intro level
  obtain ⟨s, hs, hends⟩ := h level
  exact ⟨_, printNode_return hs,
    ends_terminated hstyle (hends.behind (.of_not_mem (s := "return ") (by decide)))⟩

theorem ends_target (hstyle : style.Readable ind) (k : String) :
    Ends Settled ("this" ++ writtenAccess style.quote k) :=
  (ends_writtenAccess hstyle.quote k).behind (.of_not_mem (s := "this") (by decide))

theorem ends_assignment (hstyle : style.Readable ind) (k : String) {e : Node}
    (h : EndsSettled style e .expression) :
    EndsSettled style
      (.expressionStatement (.assignmentExpression (.str "=") (.thisMember (.str k)) e))
      .statement := by
  intro level
  obtain ⟨s, hs, hends⟩ := h level
  have hspace : Ends anywhere " " := .of_not_mem (by decide)
  have hequals : Ends anywhere "=" := .of_not_mem (by decide)
  exact ⟨_, printNode_expressionStatement (printNode_assignment k hs), ends_terminated hstyle
    (hends.behind (hspace.behind (hequals.behind (hspace.behind (ends_target hstyle k)))))⟩

theorem ends_emission (hstyle : style.Readable ind) (k : String) {es : List Node}
    (h : ∀ e ∈ es, EndsSettled style e .expression) :
    EndsSettled style (.expressionStatement (.callExpression (.thisMember (.str k)) es))
      .statement := by
  intro level
  obtain ⟨ss, hprint, -, hends⟩ := ends_nodes fun n hn => h n hn level
  refine ⟨_, printNode_expressionStatement (printNode_call k hprint), ends_terminated hstyle ?_⟩
  have hclosing : Ends solidly ")" := .of_not_blank (by decide) (by decide)
  exact (hclosing.behind ((Ends.join (by decide) hends).behind
    ((Ends.of_not_mem (s := "(") (by decide)).behind (ends_target hstyle k)))).settled

/-- No node of a declaration has a printed text that could not stand anywhere in a tidy text. -/
theorem Assembled.endsSettled {voc : Vocabulary} {role : Role} {n : Node}
    (h : Assembled voc role n) (hstyle : style.Readable ind) (hind : '\n' ∉ ind.toList)
    (hnumber : ∀ v, voc.number v → IsWritable v)
    (hcomponent : ∀ k, voc.component k → Naming.isIdentifierName k = true) :
    EndsSettled style n role := by
  induction h with
  | null => exact fun _ => ⟨_, rfl, (Ends.of_not_blank (by decide) (by decide)).settled⟩
  | bool b =>
    refine fun _ => ⟨_, rfl, ?_⟩
    cases b <;> exact (Ends.of_not_blank (by decide) (by decide)).settled
  | number hv =>
    obtain ⟨hv, s, hs⟩ := hnumber _ hv
    exact fun _ => ⟨s, printNode_numeral hs, (ends_numeral hv hs).settled⟩
  | text s => exact fun _ => ⟨_, rfl, (ends_quoted hstyle.quote s).settled⟩
  | array hes ih => exact ends_array hstyle hind ih
  | object hms hprototype ih =>
    exact fun level => (ends_object hstyle hind ih level).imp fun _ h => ⟨h.1, h.2.settled⟩
  | constructor kind =>
    refine fun _ => ⟨_, rfl, ?_⟩
    cases kind <;> exact (Ends.of_not_blank (by decide) (by decide)).settled
  | fresh he ih => exact ends_function ih
  | toggled hk =>
    exact fun level => ⟨_, printNode_negation _,
      (ends_target hstyle _).behind (.of_not_mem (s := "!") (by decide))⟩
  | property hk hv ih => exact ends_property hstyle _ ih
  | binding hk =>
    exact fun level => ⟨_, printMember_binding (hcomponent _ hk), ends_name (hcomponent _ hk)⟩
  | method hk hss ih => exact ends_method hstyle hind _ ih
  | result he ih => exact ends_return hstyle ih
  | assignment hk he ih => exact ends_assignment hstyle _ ih
  | emission hes ih => exact ends_emission hstyle _ ih

/-- The printed text of a declaration may stand anywhere, and it ends with what is not blank. -/
theorem Assembled.ends_declaration {voc : Vocabulary} {ms : List Node}
    (h : Assembled voc .expression (.objectExpression ms)) (hstyle : style.Readable ind)
    (hind : '\n' ∉ ind.toList) (hnumber : ∀ v, voc.number v → IsWritable v)
    (hcomponent : ∀ k, voc.component k → Naming.isIdentifierName k = true) :
    ∃ s, print style (.exportDefault (.objectExpression ms)) = .ok (.str s) ∧ Ends solidly s := by
  cases h with
  | object hms hprototype =>
    obtain ⟨s, hs, hends⟩ := ends_object hstyle hind
      (fun m hm => (hms m hm).endsSettled hstyle hind hnumber hcomponent) 0
    exact ⟨_, print_declaration hs, (hends.behind
      (.of_not_mem (s := "export default ") (by decide))).append
        (leads_terminator hstyle.terminator fun _ h => h)⟩

end

end Componentry.Script
