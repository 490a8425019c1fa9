import Componentry.Proofs.Double.Characters
import Componentry.Proofs.Script.Printed
import Componentry.Proofs.Text.Occurrences
import Componentry.Proofs.Text.Pieces

/-!
# Texts that a declaration carries

A page ends a script at the first closing tag, wherever in the script it stands. The escapes of the
printer keep a text inside its literal but leave a closing tag in it as it is. So the printed text
of a declaration has as many closing tags as the texts that the declaration carries.
-/

namespace Componentry

/-- What a closing tag of a script begins with. -/
def closingTag : List Char := ['<', '/', 's', 'c', 'r', 'i', 'p', 't']

theorem closingTag_ne_nil : closingTag ≠ [] := List.cons_ne_nil _ _

def closingTags (ss : List String) : Nat :=
  (ss.map fun s => Text.occurrences closingTag s.toList).sum

mutual

/-- The texts in a node: the names of its identifiers and the contents of its literals. -/
def Node.carried : Node → List String
  | .identifier (.str s) => [s]
  | .stringLiteral (.str s) => [s]
  | .arrayExpression es => carriedByAll es
  | .objectProperty k v _ => carried k ++ carried v
  | .objectMethod k ps b => carried k ++ carriedByAll ps ++ carried b
  | .objectExpression ms => carriedByAll ms
  | .arrowFunction ps b => carriedByAll ps ++ carried b
  | .memberExpression o p _ => carried o ++ carried p
  | .unaryExpression _ a => carried a
  | .assignmentExpression _ l r => carried l ++ carried r
  | .callExpression c as => carried c ++ carriedByAll as
  | .expressionStatement e => carried e
  | .returnStatement (some e) => carried e
  | .blockStatement ss => carriedByAll ss
  | .exportDefault d => carried d
  | _ => []

def Node.carriedByAll : List Node → List String
  | [] => []
  | n :: ns => carried n ++ carriedByAll ns

end

attribute [local simp] Node.carried Node.carriedByAll

theorem closingTags_append (ss ts : List String) :
    closingTags (ss ++ ts) = closingTags ss + closingTags ts := by
  rw [closingTags, List.map_append, List.sum_append]
  rfl

theorem closingTags_carriedByAll (ns : List Node) :
    closingTags (Node.carriedByAll ns) = (ns.map fun n => closingTags n.carried).sum := by
  induction ns with
  | nil => rfl
  | cons n ns ih => rw [Node.carriedByAll, closingTags_append, ih, List.map_cons, List.sum_cons]

theorem closingTags_eq_zero {ss : List String} :
    closingTags ss = 0 ↔ ∀ s ∈ ss, Text.occurrences closingTag s.toList = 0 := by
  rw [closingTags, List.sum_eq_zero_iff_forall_eq_nat, List.forall_mem_map]

namespace Script

open Text (occurrences Adds)

/-- A text has a number of closing tags, each of them whole whatever stands behind the text. -/
def Brings (s : String) (n : Nat) : Prop := Adds closingTag s.toList n

theorem adds_of_not_mem {cs : List Char} (h : '<' ∉ cs) : Adds closingTag cs 0 :=
  Adds.of_not_mem fun _ hc heq => h (Text.eq_of_toLower heq (by decide) ▸ hc)

namespace Brings

variable {s t : String} {n : Nat}

theorem of_not_mem (h : '<' ∉ s.toList) : Brings s 0 := adds_of_not_mem h

theorem append {m : Nat} (hs : Brings s m) (ht : Brings t n) : Brings (s ++ t) (m + n) := by
  rw [Brings, String.toList_append]
  exact Adds.append hs ht

theorem behind (hs : Brings s n) (h : '<' ∉ t.toList) : Brings (t ++ s) n := by
  have := (of_not_mem h).append hs
  rwa [Nat.zero_add] at this

theorem before (hs : Brings s n) (h : '<' ∉ t.toList) : Brings (s ++ t) n :=
  hs.append (of_not_mem h)

theorem eq (h : Brings s n) : occurrences closingTag s.toList = n := Adds.occurrences h

theorem join {sep : String} {ss : List String} {ns : List Nat} (h : List.Forall₂ Brings ss ns)
    (hsep : '<' ∉ sep.toList) : Brings (Text.join sep ss) ns.sum := by
  induction h with
  | nil => exact of_not_mem (s := "") (by decide)
  | @cons s n ss ns hs hss ih =>
    cases ss with
    | nil =>
      cases hss
      exact hs
    | cons t ss =>
      rw [Text.join, List.sum_cons]
      · exact (hs.before hsep).append ih
      · exact List.cons_ne_nil t ss

theorem broken {opening closing separator inner outer : String} (hinner : '<' ∉ inner.toList)
    (houter : '<' ∉ outer.toList) {ss : List String} {ns : List Nat}
    (h : List.Forall₂ Brings ss ns) (hopening : '<' ∉ opening.toList)
    (hclosing : '<' ∉ closing.toList) (hseparator : '<' ∉ separator.toList) :
    Brings (Script.broken opening closing separator inner outer ss) ns.sum := by
  have hitems : List.Forall₂ Brings (ss.map (inner ++ ·)) ns :=
    List.forall₂_map_left_iff.mpr (h.imp fun _ _ hs => hs.behind hinner)
  have hsep : '<' ∉ (separator ++ "\n").toList := by
    rw [String.toList_append, List.mem_append]
    exact not_or.mpr ⟨hseparator, by decide⟩
  have hfirst : '<' ∉ (opening ++ "\n").toList := by
    rw [String.toList_append, List.mem_append]
    exact not_or.mpr ⟨hopening, by decide⟩
  exact ((((join hitems hsep).behind hfirst).before (by decide)).before houter).before hclosing

end Brings

theorem quote_not_mem {quote : Char} (hq : IsQuote quote) : quote.toLower ∉ closingTag := by
  rcases hq with rfl | rfl <;> decide

/-- A character is escaped only if no closing tag has it. -/
theorem escaped_cases {quote : Char} (hq : IsQuote quote) (c : Char) :
    escaped quote c = [c] ∨
      c.toLower ∉ closingTag ∧ ∃ e, escaped quote c = '\\' :: e ∧ '<' ∉ '\\' :: e := by
  unfold escaped
  split
  · next e he =>
    right
    unfold ownEscape? at he
    split at he <;> cases he <;> exact ⟨by decide, _, rfl, by decide⟩
  · split_ifs with hquote hcontrol
    · subst hquote
      refine Or.inr ⟨quote_not_mem hq, _, rfl, ?_⟩
      rcases hq with rfl | rfl <;> decide
    · have hprintable : ∀ d ∈ closingTag, 0x20 ≤ d.toNat := by simp [closingTag]
      right
      rw [Text.toLower_eq_self (Or.inl (by omega))]
      refine ⟨fun hc => absurd (hprintable c hc) (by omega), _, rfl, ?_⟩
      simp [not_mem_hex (show isNumeralChar '<' = false by decide)]
    · exact Or.inl rfl

/-- A literal goes on as a closing tag, or a part of one, just if its content does. -/
theorem beginsWith_escaped {quote : Char} (hq : IsQuote quote) {mark : List Char}
    (hmark : ∀ c ∈ mark, c ∈ closingTag) (cs rest : List Char) :
    Text.beginsWith mark (cs.flatMap (escaped quote) ++ quote :: rest) =
      Text.beginsWith mark cs := by
  -- by the mark and not by the text: what follows an escaped character must not matter
  induction mark generalizing cs with
  | nil => rfl
  | cons m mark ih =>
    have houtside : ∀ c : Char, c.toLower ∉ closingTag → ∀ ds,
        Text.beginsWith (m :: mark) (c :: ds) = false := fun c hc ds =>
      Text.beginsWith_cons (List.cons_ne_nil m mark) fun hmem => hc (hmark _ hmem)
    cases cs with
    | nil => rw [List.flatMap_nil, List.nil_append, houtside quote (quote_not_mem hq)]; rfl
    | cons c cs =>
      rw [List.flatMap_cons]
      rcases escaped_cases hq c with heq | ⟨hc, e, heq, -⟩
      · have hrest := ih (fun d hd => hmark d (List.mem_cons_of_mem m hd)) cs
        rw [Text.beginsWith, Text.beginsWith] at hrest
        rw [heq, List.singleton_append, List.cons_append, Text.beginsWith, Text.beginsWith,
          List.map_cons, List.map_cons, List.isPrefixOf_cons_cons, List.isPrefixOf_cons_cons,
          hrest]
      · rw [heq, List.cons_append, List.cons_append, houtside _ (by decide), houtside c hc]

theorem brings_quoted {quote : Char} (hq : IsQuote quote) (s : String) :
    Brings (String.ofList (quoted quote s.toList)) (occurrences closingTag s.toList) := by
  intro rest
  rw [String.toList_ofList, quoted, List.cons_append, List.append_assoc, List.singleton_append]
  have hquote : ∀ ds, occurrences closingTag (quote :: ds) = occurrences closingTag ds :=
    fun ds => Text.occurrences_cons closingTag_ne_nil (quote_not_mem hq)
  rw [hquote]
  generalize s.toList = cs
  induction cs with
  | nil => rw [List.flatMap_nil, List.nil_append, hquote]; exact (Nat.zero_add _).symm
  | cons c cs ih =>
    have hbegins := beginsWith_escaped hq (fun _ hc => hc) (c :: cs) rest
    rw [List.flatMap_cons] at hbegins ⊢
    rcases escaped_cases hq c with heq | ⟨hc, e, heq, he⟩
    · rw [heq, List.singleton_append, List.cons_append] at hbegins ⊢
      rw [occurrences, occurrences, hbegins, ih, Nat.add_assoc]
    · rw [List.append_assoc, heq, adds_of_not_mem he, ih,
        Text.occurrences_cons closingTag_ne_nil hc, Nat.zero_add]

theorem not_mem_name {s : String} (h : Naming.isIdentifierName s = true) : '<' ∉ s.toList := by
  obtain ⟨name, ws, heq, hws, -, hc, -⟩ := bareName_parts h
  rw [heq, List.mem_append]
  refine not_or.mpr ⟨fun hmem => absurd (hc _ hmem) (by decide), ?_⟩
  rcases hws with rfl | rfl <;> decide

theorem brings_writtenKey {quote : Char} (hq : IsQuote quote) (k : String) :
    Brings (writtenKey quote k) (closingTags (Node.key k).carried) := by
  unfold writtenKey Node.key
  split_ifs with h
  · have hnone := Brings.of_not_mem (not_mem_name h)
    rwa [Node.carried, closingTags, List.map_singleton, List.sum_singleton, hnone.eq]
  · rw [Node.carried, closingTags, List.map_singleton, List.sum_singleton]
    exact brings_quoted hq k

theorem brings_writtenAccess {quote : Char} (hq : IsQuote quote) (k : String) :
    Brings (writtenAccess quote k) (closingTags (Node.thisMember (.str k)).carried) := by
  have hk : closingTags (Node.thisMember (.str k)).carried = occurrences closingTag k.toList := by
    simp [Node.thisMember, closingTags]
  rw [hk]
  unfold writtenAccess
  split_ifs with h
  · have hnone := Brings.of_not_mem (not_mem_name h)
    rw [hnone.eq]
    exact hnone.behind (by decide)
  · exact ((brings_quoted hq k).behind (by decide)).before (by decide)

def IsNumber (v : Value) : Prop := (∃ i, v = .int i) ∨ ∃ x, v = .float x

/-- A number that has a text. -/
def IsWritable (v : Value) : Prop := IsNumber v ∧ ∃ s, numeral v = .ok s

theorem isNumeral_numeral {v : Value} (h : IsNumber v) {s : String} (hs : numeral v = .ok s) :
    IsNumeral s.toList := by
  have hwritten := Double.isNumeral_written NumeralStyle.isNumeral_plain
  rcases h with ⟨i, rfl⟩ | ⟨x, rfl⟩
  · rw [(numeral_int_eq_ok hs).2]
    exact isNumeral_decimal i
  · unfold numeral at hs
    split at hs
    · cases hs
      exact .of_all (by decide) (by decide)
    · cases hs
      split_ifs <;> exact .of_all (by decide) (by decide)
    · split at hs
      · cases hs
        split_ifs
        · exact isNumeral_decimal _
        · exact hwritten _
      · cases hs
        exact hwritten _
    · next _ _ h => exact (h x rfl).elim

/-- The printed text of a node brings the closing tags that the node carries. -/
def BringsCarried (style : Style) (n : Node) : Role → Prop
  | .member => ∀ level, ∃ s, printMember style level n = .ok s ∧ Brings s (closingTags n.carried)
  | _ => ∀ level, ∃ s, printNode style level n = .ok (.str s) ∧ Brings s (closingTags n.carried)

theorem not_mem_of_isBlank {cs : List Char} (h : IsBlank cs) : '<' ∉ cs := fun hmem =>
  absurd (h _ hmem) (by decide)

theorem not_mem_of_isTerminator {cs : List Char} (h : IsTerminator cs) : '<' ∉ cs := by
  rcases h with rfl | rfl <;> decide

section

variable {style : Style} {ind : String}

theorem brings_nodes {ns : List Node}
    (h : ∀ n ∈ ns, BringsCarried style n .expression) (level : Nat) :
    ∃ ss : List String, printNodes style level ns = .ok (ss.map .str) ∧
      List.Forall₂ Brings ss (ns.map fun n => closingTags n.carried) := by
  obtain ⟨ss, hprint, hbrings⟩ := printNodes_texts fun n hn => h n hn level
  exact ⟨ss, hprint, List.forall₂_map_right_iff.mpr hbrings⟩

theorem brings_array (hstyle : style.Readable ind) {es : List Node}
    (h : ∀ e ∈ es, BringsCarried style e .expression) :
    BringsCarried style (.arrayExpression es) .expression := by
  intro level
  rw [Node.carried, closingTags_carriedByAll]
  have hind := Text.not_mem_repeated (not_mem_of_isBlank hstyle.blank)
  cases hflat : es.any breaksArray with
  | true =>
    obtain ⟨ss, hprint, hbrings⟩ := brings_nodes h (level + 1)
    exact ⟨_, printNode_array_broken hflat hstyle.indents hprint,
      .broken (hind _) (hind _) hbrings (by decide) (by decide) (by decide)⟩
  | false =>
    obtain ⟨ss, hprint, hbrings⟩ := brings_nodes h level
    by_cases hne : es = []
    · subst hne
      exact ⟨"[]", rfl, .of_not_mem (by decide)⟩
    · exact ⟨_, printNode_array_inline hne hflat hprint,
        ((Brings.join hbrings (by decide)).behind (by decide)).before (by decide)⟩

theorem brings_object (hstyle : style.Readable ind) {ms : List Node}
    (h : ∀ m ∈ ms, BringsCarried style m .member) :
    BringsCarried style (.objectExpression ms) .expression := by
  intro level
  rw [Node.carried, closingTags_carriedByAll]
  have hind := Text.not_mem_repeated (not_mem_of_isBlank hstyle.blank)
  by_cases hne : ms = []
  · subst hne
    exact ⟨"\x7b\x7d", rfl, .of_not_mem (by decide)⟩
  · obtain ⟨ss, hprint, hbrings⟩ := printMembers_texts fun m hm => h m hm (level + 1)
    exact ⟨_, printNode_object hne hstyle.indents hprint,
      .broken (hind _) (hind _) (List.forall₂_map_right_iff.mpr hbrings) (by decide) (by decide)
        (by decide)⟩

theorem brings_function {e : Node} (h : BringsCarried style e .expression) :
    BringsCarried style (.arrowFunction [] e) .expression := by
  intro level
  obtain ⟨s, hs, hbrings⟩ := h level
  refine ⟨_, printNode_function hs, ?_⟩
  rw [Node.carried, Node.carriedByAll, List.nil_append]
  have hwrapped : Brings (wrapped (wrapsBody e) s) (closingTags e.carried) := by
    cases wrapsBody e with
    | true => exact (hbrings.behind (by decide)).before (by decide)
    | false => exact hbrings
  exact hwrapped.behind (by decide)

theorem brings_property (hstyle : style.Readable ind) (k : String) {v : Node}
    (h : BringsCarried style v .expression) :
    BringsCarried style (.objectProperty (.key k) v (.bool false)) .member := by
  intro level
  obtain ⟨s, hs, hbrings⟩ := h level
  refine ⟨_, printMember_property k hs, ?_⟩
  rw [Node.carried, closingTags_append]
  exact ((brings_writtenKey hstyle.quote k).before (by decide)).append hbrings

theorem brings_binding {k : String} (hk : Naming.isIdentifierName k = true) :
    BringsCarried style (Component.binding (.str k)) .member := by
  intro level
  have hnone := Brings.of_not_mem (not_mem_name hk)
  refine ⟨k, printMember_binding hk, ?_⟩
  simpa [Component.binding, closingTags, hnone.eq] using hnone

theorem brings_method (hstyle : style.Readable ind) (k : String) {ss : List Node}
    (h : ∀ s ∈ ss, BringsCarried style s .statement) :
    BringsCarried style (.objectMethod (.key k) [] (.blockStatement ss)) .member := by
  intro level
  have hind := Text.not_mem_repeated (not_mem_of_isBlank hstyle.blank)
  have hbody : ∃ s, printBody style level (.blockStatement ss) = .ok s ∧
      Brings s (closingTags (Node.carriedByAll ss)) := by
    rw [closingTags_carriedByAll]
    by_cases hne : ss = []
    · subst hne
      exact ⟨"\x7b\x7d", rfl, .of_not_mem (by decide)⟩
    · obtain ⟨texts, hprint, hbrings⟩ := brings_nodes h (level + 1)
      exact ⟨_, printBody_block hne hstyle.indents hprint,
        .broken (hind _) (hind _) hbrings (by decide) (by decide) (by decide)⟩
  obtain ⟨s, hs, hbrings⟩ := hbody
  refine ⟨_, printMember_method k hs, ?_⟩
  rw [Node.carried, Node.carriedByAll, List.append_nil, Node.carried, closingTags_append]
  have hkey := brings_writtenKey hstyle.quote k
  exact (((hkey.before (by decide)).before (by decide)).before (by decide)).append hbrings

theorem brings_return (hstyle : style.Readable ind) {e : Node}
    (h : BringsCarried style e .expression) :
    BringsCarried style (.returnStatement (some e)) .statement := by
  intro level
  obtain ⟨s, hs, hbrings⟩ := h level
  exact ⟨_, printNode_return hs,
    (hbrings.behind (by decide)).before (not_mem_of_isTerminator hstyle.terminator)⟩

theorem brings_assignment (hstyle : style.Readable ind) (k : String) {e : Node}
    (h : BringsCarried style e .expression) :
    BringsCarried style
      (.expressionStatement (.assignmentExpression (.str "=") (.thisMember (.str k)) e))
      .statement := by
  intro level
  obtain ⟨s, hs, hbrings⟩ := h level
  refine ⟨_, printNode_expressionStatement (printNode_assignment k hs),
    Brings.before ?_ (not_mem_of_isTerminator hstyle.terminator)⟩
  rw [Node.carried, Node.carried, closingTags_append]
  have htarget := (brings_writtenAccess hstyle.quote k).behind (t := "this") (by decide)
  exact (((htarget.before (by decide)).before (by decide)).before (by decide)).append hbrings

theorem brings_emission (hstyle : style.Readable ind) (k : String) {es : List Node}
    (h : ∀ e ∈ es, BringsCarried style e .expression) :
    BringsCarried style (.expressionStatement (.callExpression (.thisMember (.str k)) es))
      .statement := by
  intro level
  obtain ⟨ss, hprint, hbrings⟩ := brings_nodes h level
  refine ⟨_, printNode_expressionStatement (printNode_call k hprint),
    Brings.before ?_ (not_mem_of_isTerminator hstyle.terminator)⟩
  rw [Node.carried, Node.carried, closingTags_append, closingTags_carriedByAll]
  have htarget := (brings_writtenAccess hstyle.quote k).behind (t := "this") (by decide)
  exact ((htarget.before (by decide)).append (Brings.join hbrings (by decide))).before (by decide)

/-- The text of a declaration has as many closing tags as its texts. -/
theorem Assembled.brings {voc : Vocabulary} {role : Role} {n : Node} (h : Assembled voc role n)
    (hstyle : style.Readable ind) (hnumber : ∀ v, voc.number v → IsWritable v)
    (hcomponent : ∀ k, voc.component k → Naming.isIdentifierName k = true) :
    BringsCarried style n role := by
  induction h with
  | null => exact fun _ => ⟨_, rfl, .of_not_mem (by decide)⟩
  | bool b => exact fun _ => ⟨_, rfl, .of_not_mem (by cases b <;> decide)⟩
  | number hv =>
    obtain ⟨hv, s, hs⟩ := hnumber _ hv
    exact fun _ => ⟨s, printNode_numeral hs,
      .of_not_mem ((isNumeral_numeral hv hs).not_mem (by decide))⟩
  | text s =>
    refine fun _ => ⟨_, rfl, ?_⟩
    rw [Node.carried, closingTags, List.map_singleton, List.sum_singleton]
    exact brings_quoted hstyle.quote s
  | array hes ih => exact brings_array hstyle ih
  | object hms hprototype ih => exact brings_object hstyle ih
  | constructor kind =>
    refine fun _ => ⟨_, rfl, ?_⟩
    cases kind <;> exact .of_not_mem (by decide)
  | fresh he ih => exact brings_function ih
  | toggled hk =>
    refine fun level => ⟨_, printNode_negation _, ?_⟩
    exact ((brings_writtenAccess hstyle.quote _).behind (by decide)).behind (by decide)
  | property hk hv ih => exact brings_property hstyle _ ih
  | binding hk => exact brings_binding (hcomponent _ hk)
  | method hk hss ih => exact brings_method hstyle _ ih
  | result he ih => exact brings_return hstyle ih
  | assignment hk he ih => exact brings_assignment hstyle _ ih
  | emission hes ih => exact brings_emission hstyle _ ih

end

end Script

end Componentry
