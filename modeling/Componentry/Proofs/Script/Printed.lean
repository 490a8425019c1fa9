import Componentry.Proofs.Script.Assembled
import Componentry.Proofs.Script.Clause
import Componentry.Proofs.Script.Printing

/-!
# Printed declarations are read back

Whatever a declaration consists of, its printed text is read as the same node with its names
settled. The induction follows the roles of nodes: each construct is written from the texts of its
parts and read from what its parts are read as.
-/

namespace Componentry.Script

theorem isBlank_repeated {s : String} (h : IsBlank s.toList) (n : Nat) :
    IsBlank (Text.repeated s n).toList := by
  induction n with
  | zero => exact isBlank_nil
  | succ n ih =>
    rw [Text.repeated, String.toList_append]
    exact isBlank_append h ih

def Layout.lines {inner outer : List Char} (hinner : IsBlank inner) (houter : IsBlank outer) :
    Layout where
  before := inner
  between := ['\n']
  after := '\n' :: outer
  before_blank := hinner
  between_blank := isBlank_cons (Or.inl rfl) isBlank_nil
  after_blank := isBlank_cons (Or.inl rfl) houter

theorem toList_join_inline (close : Char) {items : List String} (h : items ≠ []) :
    (Text.join ", " items).toList ++ [close] =
      Layout.inline.list [','] close (items.map String.toList) := by
  induction items with
  | nil => exact absurd rfl h
  | cons s rest ih =>
    cases rest with
    | nil => rfl
    | cons r rest =>
      simp only [Text.join, String.toList_append, List.map_cons, Layout.list] at ih ⊢
      rw [List.append_assoc, List.append_assoc, ih (List.cons_ne_nil _ _)]
      rfl

theorem toList_join_lines (separator inner outer : String) (close : Char)
    (hinner : IsBlank inner.toList) (houter : IsBlank outer.toList) {items : List String}
    (h : items ≠ []) :
    (Text.join (separator ++ "\n") (items.map (inner ++ ·)) ++ "\n" ++ outer).toList ++ [close] =
      (Layout.lines hinner houter).list separator.toList close (items.map String.toList) := by
  induction items with
  | nil => exact absurd rfl h
  | cons s rest ih =>
    cases rest with
    | nil => simp [Text.join, Layout.list, Layout.lines]
    | cons r rest =>
      have := ih (List.cons_ne_nil _ _)
      simp only [Text.join, String.toList_append, List.map_cons, Layout.list, List.append_assoc]
        at this ⊢
      rw [this]
      simp [Layout.lines]

theorem toList_broken (opening closing separator inner outer : String) (items : List String) :
    (broken opening closing separator inner outer items).toList =
      opening.toList ++ '\n' :: ((Text.join (separator ++ "\n") (items.map (inner ++ ·)) ++ "\n" ++
        outer).toList ++ closing.toList) := by
  simp [broken]

section

variable {α : Type} {first : Token → Prop} {reader : Nat → Reader α} {stop : Lexeme → Prop}
  {items : List String} {as : List α} {c close : Char}

theorem readsBrackets_inline (hfirst : ∀ t, first t → t ≠ .mark close)
    (hstop : ∀ b, stop ⟨.mark ',', b⟩ ∧ stop ⟨.mark close, b⟩)
    (h : List.Forall₂ (ReadsFrom first reader stop) (items.map String.toList) as)
    (hc : c ∈ brackets) (hclose : close ∈ brackets) (hne : close ≠ ',') :
    ReadsBrackets (fun depth => separated (reader depth) close) c
      (c :: ((Text.join ", " items).toList ++ [close])) as := by
  by_cases hitems : items = []
  · subst hitems
    cases h
    exact separated_empty reader hc hclose
  · rw [toList_join_inline close hitems]
    exact (separated_list Layout.inline hclose hne hfirst hstop h
      (mt List.map_eq_nil_iff.mp hitems)).opened hc isBlank_nil

theorem readsBrackets_lines {inner outer : String} (hinner : IsBlank inner.toList)
    (houter : IsBlank outer.toList) (hfirst : ∀ t, first t → t ≠ .mark close)
    (hstop : ∀ b, stop ⟨.mark ',', b⟩ ∧ stop ⟨.mark close, b⟩) (hitems : items ≠ [])
    (h : List.Forall₂ (ReadsFrom first reader stop) (items.map String.toList) as)
    (hc : c ∈ brackets) (hclose : close ∈ brackets) (hne : close ≠ ',') :
    ReadsBrackets (fun depth => separated (reader depth) close) c
      (broken (String.singleton c) (String.singleton close) "," inner outer items).toList as := by
  rw [toList_broken, String.toList_singleton, String.toList_singleton,
    toList_join_lines "," inner outer close hinner houter hitems]
  exact (separated_list (Layout.lines hinner houter) hclose hne hfirst hstop h
    (mt List.map_eq_nil_iff.mp hitems)).opened hc (isBlank_cons (Or.inl rfl) isBlank_nil)

theorem readsBody_lines {inner outer : String} (hinner : IsBlank inner.toList)
    (houter : IsBlank outer.toList)
    (hfirst : ∀ t, first t → t ≠ .mark '\x7d' ∧ t.continues = false ∧ t ≠ .mark ';')
    (hitems : items ≠ [])
    (h : List.Forall₂ (ReadsFrom first reader Lexeme.endsStatement) (items.map String.toList) as) :
    ReadsBrackets (fun depth => repeated (reader depth) '\x7d') '\x7b'
      (broken "\x7b" "\x7d" "" inner outer items).toList as := by
  have hsep : ∀ cs, isSeparate ((Layout.lines hinner houter).between ++ cs) = true := fun cs => rfl
  rw [toList_broken]
  have := toList_join_lines "" inner outer '\x7d' hinner houter hitems
  rw [show "\x7d".toList = ['\x7d'] from rfl, this]
  exact (repeated_list (Layout.lines hinner houter) rfl hfirst hsep h
    (mt List.map_eq_nil_iff.mp hitems)).opened (by decide) (isBlank_cons (Or.inl rfl) isBlank_nil)

end

theorem isBlank_lineFeed {ws : List Char} (h : ws = [] ∨ ws = ['\n']) : IsBlank ws := by
  rcases h with rfl | rfl
  · exact isBlank_nil
  · exact isBlank_cons (Or.inl rfl) isBlank_nil

theorem reads_writtenKey {quote : Char} (hq : IsQuote quote) (k : String) :
    ReadsKey (writtenKey quote k).toList (keyToken k) (reread (.key k)) := by
  rw [reread_key, writtenKey, keyToken]
  cases hk : Naming.isIdentifierName k with
  | true =>
    obtain ⟨name, ws, heq, hws, hb, hc, hsettled⟩ := bareName_parts hk
    simp only [if_true, hsettled, heq]
    exact reads_key_name hb hc (isBlank_lineFeed hws)
  | false =>
    simp only [Bool.false_eq_true, if_false, String.toList_ofList]
    exact reads_key_literal hq k

theorem reads_writtenAccess {quote : Char} (hq : IsQuote quote) (k : String) :
    ReadsAccess (writtenAccess quote k).toList (settledName k) := by
  rw [writtenAccess]
  cases hk : Naming.isIdentifierName k with
  | true =>
    obtain ⟨name, ws, heq, hws, hb, hc, hsettled⟩ := bareName_parts hk
    rw [if_pos rfl, hsettled, String.toList_append, heq]
    exact reads_access_name hb hc (isBlank_lineFeed hws)
  | false =>
    have hsettled : settledName k = k := by simp [settledName, hk]
    simp only [if_neg Bool.false_ne_true, hsettled, String.toList_append, String.toList_ofList]
    exact reads_access_literal hq k

theorem reads_decimal (i : Int) :
    ∃ t, t ≠ .mark '\x7b' ∧ Reads (Text.decimal i).toList t (.numericLiteral (.int i)) := by
  unfold Text.decimal
  split_ifs with h
  · obtain ⟨n, rfl⟩ : ∃ n : Nat, i = -(n + 1 : Nat) := ⟨i.natAbs - 1, by omega⟩
    refine ⟨.mark '-', by simp, ?_⟩
    simp only [Int.natAbs_neg, Int.natAbs_natCast, String.toList_append, Text.natural,
      String.toList_ofList]
    exact reads_negative n
  · obtain ⟨n, rfl⟩ : ∃ n : Nat, i = n := ⟨i.natAbs, by omega⟩
    refine ⟨.number n, by simp, ?_⟩
    rw [Int.natAbs_natCast, Text.natural, String.toList_ofList]
    exact reads_natural n

/-- A style whose texts can be read: it has room for every margin, and its indentation is white
space. -/
structure Style.Readable (style : Style) (ind : String) : Prop where
  quote : IsQuote style.quote
  terminator : IsTerminator style.terminator.toList
  indents : style.Indents ind
  blank : IsBlank ind.toList

/-- The text of a node of some role is read as another node. -/
def Printed (style : Style) (n n' : Node) : Role → Prop
  | .expression => ∀ level, ∃ s, printNode style level n = .ok (.str s) ∧
      ∃ t, (t = .mark '\x7b' ↔ wrapsBody n = true) ∧ Reads s.toList t n'
  | .member => ∀ level, ∃ s, printMember style level n = .ok s ∧ ∃ t, ReadsMember s.toList t n'
  | .statement => ∀ level, ∃ s, printNode style level n = .ok (.str s) ∧
      ∃ t, (t = .word "this" ∨ t = .word "return") ∧ ReadsStatement s.toList t n'

theorem forall₂_eq_nil_iff {α β : Type} {R : α → β → Prop} {as : List α} {bs : List β}
    (h : List.Forall₂ R as bs) : as = [] ↔ bs = [] := by
  cases h <;> simp

theorem printed_expressions {style : Style} {es : List Node}
    (h : ∀ e ∈ es, Printed style e (reread e) .expression) (level : Nat) :
    ∃ ss : List String, printNodes style level es = .ok (ss.map .str) ∧ (ss = [] ↔ es = []) ∧
      List.Forall₂ (ReadsFrom (fun t => t ≠ .mark ']' ∧ t ≠ .mark ')') expression
        Lexeme.endsExpression) (ss.map String.toList) (rereadAll es) := by
  have hread : ∀ e ∈ es, ∃ s, printNode style level e = .ok (.str s) ∧
      ∃ t, Reads s.toList t (reread e) := fun e he => by
    obtain ⟨s, hs, t, -, hreads⟩ := h e he level
    exact ⟨s, hs, t, hreads⟩
  obtain ⟨ss, hprint, hreads⟩ := printNodes_texts hread
  refine ⟨ss, hprint, forall₂_eq_nil_iff hreads, ?_⟩
  rw [rereadAll_eq_map, List.forall₂_map_left_iff, List.forall₂_map_right_iff]
  exact hreads.imp fun s n ⟨t, ht⟩ => ⟨t, ⟨ht.ne_mark (by decide), ht.ne_mark (by decide)⟩, ht⟩

section

variable {style : Style} {ind : String}

theorem printed_word {n n' : Node} {s : String}
    (hprint : ∀ level, printNode style level n = .ok (.str s))
    (hwrap : wrapsBody n = false) (hb : s.toList.head?.any beginsName = true)
    (hc : s.toList.all continuesName = true)
    (hop : operator? (.word (String.ofList s.toList)) = none)
    (h : operandOfWord? (String.ofList s.toList) = some n') : Printed style n n' .expression := by
  intro level
  exact ⟨s, hprint level, _, by simp [hwrap], reads_word hb (List.all_eq_true.mp hc) hop h⟩

theorem printed_constructor (kind : PropKind) :
    Printed style (.identifier (.str kind.runtimeType)) (.identifier (.str kind.runtimeType))
      .expression := by
  cases kind <;>
    exact printed_word (fun _ => rfl) rfl rfl rfl rfl rfl

theorem printed_number {i : Int} (hi : Text.IsShort i) :
    Printed style (.numericLiteral (.int i)) (.numericLiteral (.int i)) .expression := by
  intro level
  obtain ⟨t, ht, hreads⟩ := reads_decimal i
  exact ⟨_, printNode_numeral (numeral_int hi), t, by simp [wrapsBody, ht], hreads⟩

theorem printed_text (hstyle : style.Readable ind) (s : String) :
    Printed style (.stringLiteral (.str s)) (.stringLiteral (.str s)) .expression := by
  intro level
  refine ⟨_, rfl, .text s, by simp [wrapsBody], ?_⟩
  rw [String.toList_ofList]
  exact reads_text hstyle.quote s

theorem printed_array (hstyle : style.Readable ind) {es : List Node}
    (h : ∀ e ∈ es, Printed style e (reread e) .expression) :
    Printed style (.arrayExpression es) (.arrayExpression (rereadAll es)) .expression := by
  intro level
  cases hflat : es.any breaksArray with
  | true =>
    obtain ⟨ss, hprint, hnil, hreads⟩ := printed_expressions h (level + 1)
    have hss : ss ≠ [] := mt hnil.mp (by rintro rfl; cases hflat)
    refine ⟨_, printNode_array_broken hflat hstyle.indents hprint, .mark '[', by simp [wrapsBody],
      reads_array ?_⟩
    exact readsBrackets_lines (isBlank_repeated hstyle.blank _) (isBlank_repeated hstyle.blank _)
      (fun t ht => ht.1) (fun b => ⟨rfl, rfl⟩) hss hreads (by decide) (by decide) (by decide)
  | false =>
    obtain ⟨ss, hprint, hnil, hreads⟩ := printed_expressions h level
    have hitems : ReadsItems _ (rereadAll es) :=
      readsBrackets_inline (fun t ht => ht.1) (fun b => ⟨rfl, rfl⟩) hreads (by decide) (by decide)
        (by decide)
    by_cases hne : es = []
    · obtain rfl := hnil.mpr hne
      subst hne
      exact ⟨"[]", rfl, .mark '[', by simp [wrapsBody], reads_array hitems⟩
    · refine ⟨_, printNode_array_inline hne hflat hprint, .mark '[', by simp [wrapsBody],
        reads_array ?_⟩
      rw [String.append_assoc, String.toList_append, String.toList_append]
      exact hitems

theorem printed_object (hstyle : style.Readable ind) {ms : List Node}
    (h : ∀ m ∈ ms, Printed style m (reread m) .member) :
    Printed style (.objectExpression ms) (.objectExpression (rereadAll ms)) .expression := by
  intro level
  by_cases hne : ms = []
  · subst hne
    exact ⟨"\x7b\x7d", rfl, .mark '\x7b', by simp [wrapsBody],
      reads_object (separated_empty _ (by decide) (by decide))⟩
  · obtain ⟨ss, hprint, hreads⟩ := printMembers_texts fun m hm => h m hm (level + 1)
    refine ⟨_, printNode_object hne hstyle.indents hprint, .mark '\x7b', by simp [wrapsBody],
      reads_object ?_⟩
    have hmembers : List.Forall₂ (ReadsFrom (fun t => t ≠ .mark '\x7d')
        (fun depth => member (expression depth)) Lexeme.endsMember) (ss.map String.toList)
        (rereadAll ms) := by
      rw [rereadAll_eq_map, List.forall₂_map_left_iff, List.forall₂_map_right_iff]
      exact hreads.imp fun s n ⟨t, ht⟩ => ⟨t, ht.ne_mark _, ht⟩
    exact readsBrackets_lines (isBlank_repeated hstyle.blank _) (isBlank_repeated hstyle.blank _)
      (fun t ht => ht) (fun b => ⟨Or.inl rfl, Or.inr rfl⟩) (mt (forall₂_eq_nil_iff hreads).mp hne)
      hmembers (by decide) (by decide) (by decide)

theorem printed_function {e e' : Node} (h : Printed style e e' .expression) :
    Printed style (.arrowFunction [] e) (.arrowFunction [] e') .expression := by
  intro level
  obtain ⟨s, hs, t, ht, hreads⟩ := h level
  refine ⟨_, printNode_function hs, .mark '(', by simp [wrapsBody], ?_⟩
  rw [String.toList_append]
  cases hwrap : wrapsBody e with
  | true =>
    obtain rfl := ht.mpr hwrap
    have := reads_function (reads_wrapped hreads) (by simp)
    simpa [wrapped, arrowHead] using this
  | false =>
    have hne : t ≠ .mark '\x7b' := fun h => by rw [ht.mp h] at hwrap; cases hwrap
    exact reads_function hreads hne

theorem printed_negation (hstyle : style.Readable ind) (k : String) :
    Printed style (.unaryExpression (.str "!") (.thisMember (.str k)))
      (.unaryExpression (.str "!") (.thisMember (.str (settledName k)))) .expression := by
  intro level
  refine ⟨_, printNode_negation k, .mark '!', by simp [wrapsBody], ?_⟩
  rw [String.toList_append, String.toList_append]
  exact reads_negation (reads_writtenAccess hstyle.quote k)

theorem printed_property (hstyle : style.Readable ind) (k : String) {v v' : Node}
    (h : Printed style v v' .expression) :
    Printed style (.objectProperty (.key k) v (.bool false))
      (.objectProperty (reread (.key k)) v' (.bool false)) .member := by
  intro level
  obtain ⟨s, hs, t, -, hreads⟩ := h level
  have hkey := reads_writtenKey hstyle.quote k
  refine ⟨_, printMember_property k hs, keyToken k, ?_⟩
  rw [String.append_assoc, String.toList_append, String.toList_append]
  exact reads_property hkey hreads

theorem printed_binding {k : String} (hk : Naming.isIdentifierName k = true)
    (hkeyword : keywords.contains (settledName k) = false) :
    Printed style (Component.binding (.str k)) (Component.binding (.str (settledName k)))
      .member := by
  intro level
  obtain ⟨name, ws, heq, hws, hb, hc, hsettled⟩ := bareName_parts hk
  rw [hsettled] at hkeyword ⊢
  refine ⟨k, printMember_binding hk, .word (String.ofList name), ?_⟩
  rw [heq]
  exact reads_binding (reads_key_name hb hc (isBlank_lineFeed hws)) hkeyword

theorem printed_method (hstyle : style.Readable ind) (k : String) {ss : List Node}
    (h : ∀ s ∈ ss, Printed style s (reread s) .statement) :
    Printed style (.objectMethod (.key k) [] (.blockStatement ss))
      (.objectMethod (reread (.key k)) [] (.blockStatement (rereadAll ss))) .member := by
  intro level
  have hkey := reads_writtenKey hstyle.quote k
  have hbody : ∃ s, printBody style level (.blockStatement ss) = .ok s ∧
      ReadsBody s.toList (rereadAll ss) := by
    by_cases hne : ss = []
    · subst hne
      exact ⟨"\x7b\x7d", rfl, repeated_empty _ (by decide) (by decide)⟩
    · obtain ⟨texts, hprint, hreads⟩ := printNodes_texts fun s hs => h s hs (level + 1)
      refine ⟨_, printBody_block hne hstyle.indents hprint, ?_⟩
      have hstatements : List.Forall₂ (ReadsFrom (fun t => t = .word "this" ∨ t = .word "return")
          (fun depth => statement (expression depth)) Lexeme.endsStatement)
          (texts.map String.toList) (rereadAll ss) := by
        rw [rereadAll_eq_map, List.forall₂_map_left_iff, List.forall₂_map_right_iff]
        exact hreads
      refine readsBody_lines (isBlank_repeated hstyle.blank _) (isBlank_repeated hstyle.blank _)
        (fun t ht => ?_) (mt (forall₂_eq_nil_iff hreads).mp hne) hstatements
      rcases ht with rfl | rfl <;> decide
  obtain ⟨s, hs, hreads⟩ := hbody
  refine ⟨_, printMember_method k hs, keyToken k, ?_⟩
  simp only [String.append_assoc, String.toList_append]
  exact reads_method hkey hreads

theorem printed_return (hstyle : style.Readable ind) {e e' : Node}
    (h : Printed style e e' .expression) :
    Printed style (.returnStatement (some e)) (.returnStatement (some e')) .statement := by
  intro level
  obtain ⟨s, hs, t, -, hreads⟩ := h level
  refine ⟨_, printNode_return hs, .word "return", Or.inr rfl, ?_⟩
  rw [String.append_assoc, String.toList_append, String.toList_append]
  exact reads_return hreads hstyle.terminator

theorem printed_assignment (hstyle : style.Readable ind) (k : String) {e e' : Node}
    (h : Printed style e e' .expression) :
    Printed style
      (.expressionStatement (.assignmentExpression (.str "=") (.thisMember (.str k)) e))
      (.expressionStatement
        (.assignmentExpression (.str "=") (.thisMember (.str (settledName k))) e')) .statement := by
  intro level
  obtain ⟨s, hs, t, -, hreads⟩ := h level
  refine ⟨_, printNode_expressionStatement (printNode_assignment k hs), .word "this",
    Or.inl rfl, ?_⟩
  have hassign := reads_assignment (reads_writtenAccess hstyle.quote k) hreads
  have := reads_expressionStatement hassign (by simp) (by simp) hstyle.terminator
  simpa [thisText] using this

theorem printed_emission (hstyle : style.Readable ind) (k : String) {es : List Node}
    (h : ∀ e ∈ es, Printed style e (reread e) .expression) :
    Printed style (.expressionStatement (.callExpression (.thisMember (.str k)) es))
      (.expressionStatement (.callExpression (.thisMember (.str (settledName k))) (rereadAll es)))
      .statement := by
  intro level
  obtain ⟨ss, hprint, -, hreads⟩ := printed_expressions h level
  have hargs : ReadsArguments _ (rereadAll es) :=
    readsBrackets_inline (fun t ht => ht.2) (fun b => ⟨rfl, rfl⟩) hreads (by decide) (by decide)
      (by decide)
  refine ⟨_, printNode_expressionStatement (printNode_call k hprint), .word "this", Or.inl rfl, ?_⟩
  have hcall := reads_call (reads_writtenAccess hstyle.quote k) hargs
  have := reads_expressionStatement hcall (by simp) (by simp) hstyle.terminator
  simpa [thisText] using this

/-- The printed text of a node of a declaration is read as the node with its names settled. -/
theorem Assembled.printed {voc : Vocabulary} {role : Role} {n : Node} (h : Assembled voc role n)
    (hstyle : style.Readable ind) (hnumber : ∀ v, voc.number v → ∃ i, v = .int i ∧ Text.IsShort i)
    (hcomponent : ∀ k, voc.component k → Naming.isIdentifierName k = true ∧
      keywords.contains (settledName k) = false) : Printed style n (reread n) role := by
  induction h with
  | null => exact printed_word (fun _ => rfl) rfl rfl rfl rfl rfl
  | bool b =>
    cases b <;> exact printed_word (fun _ => rfl) rfl rfl rfl rfl rfl
  | number hv =>
    obtain ⟨i, rfl, hi⟩ := hnumber _ hv
    exact printed_number hi
  | text s => exact printed_text hstyle s
  | array hes ih => exact printed_array hstyle ih
  | object hms hprototype ih => exact printed_object hstyle ih
  | constructor kind =>
    rw [reread, settledName_runtimeType]
    exact printed_constructor kind
  | fresh he ih => exact printed_function ih
  | toggled hk => exact printed_negation hstyle _
  | property hk hv ih => exact printed_property hstyle _ ih
  | binding hk => exact printed_binding (hcomponent _ hk).1 (hcomponent _ hk).2
  | method hk hss ih => exact printed_method hstyle _ ih
  | result he ih => exact printed_return hstyle ih
  | assignment hk he ih => exact printed_assignment hstyle _ ih
  | emission hes ih => exact printed_emission hstyle _ ih

theorem Reads.lexemes {cs : List Char} {t : Token} {n : Node} (h : Reads cs t n) (b : Bool) :
    ∃ ls, Script.lexemes b cs = some ls ∧ expression ls.length ls = some (n, []) := by
  obtain ⟨ls, e, hlex, hread⟩ := h
  have hwhole := hlex b [] rfl
  rw [List.append_nil, lexemes_nil, Option.map_some, List.append_nil] at hwhole
  have hr := hread (ls.length + 1) b [] (Nat.lt_succ_self _) .nil
  rw [List.append_nil] at hr
  exact ⟨_, hwhole, hr⟩

theorem readExpression_of_reads {text : String} {t : Token} {n : Node}
    (h : Reads text.toList t n) : readExpression text = if isLegal n then some n else none := by
  obtain ⟨ls, hlex, hexpr⟩ := h.lexemes false
  simp only [readExpression, hlex, Option.bind_eq_bind, Option.bind_some, hexpr]

theorem readDeclaration_of_reads {s : String} {t : Token} {n : Node} (h : Reads s.toList t n)
    {terminator : String} (hterminator : IsTerminator terminator.toList) :
    readDeclaration ("export default " ++ s ++ terminator) =
      if isLegal (.exportDefault n) then some (.exportDefault n) else none := by
  obtain ⟨ls, e, hlex, hread⟩ := h.terminated hterminator
  have hwhole := hlex false [] rfl
  rw [List.append_nil, lexemes_nil, Option.map_some, List.append_nil] at hwhole
  obtain ⟨rest, hexpr, hend⟩ := hread (ls.length + 1) false [] (Nat.lt_succ_self _)
    .nil
  have htext : lexemes false ("export default " ++ s ++ terminator).toList =
      some (⟨.word "export", false⟩ :: ⟨.word "default", false⟩ :: ⟨t, false⟩ :: ls) := by
    have hexport : lexemes false ("export".toList ++ ' ' ::
        ("default".toList ++ ' ' :: (s.toList ++ terminator.toList))) = _ :=
      lexemes_word false rfl (List.all_eq_true.mp (by decide)) rfl
    have hdefault : lexemes false
        ("default".toList ++ ' ' :: (s.toList ++ terminator.toList)) = _ :=
      lexemes_word false rfl (List.all_eq_true.mp (by decide)) rfl
    rw [lexemes_space false rfl rfl, hdefault, lexemes_space false rfl rfl, hwhole] at hexport
    simpa using hexport
  rw [List.append_nil] at hexpr
  simp only [readDeclaration, htext, Option.bind_eq_bind, Option.bind_some, declaration?,
    List.length_cons, hexpr, hend, Option.pure_def]

/-- The text of a declaration, where it is laid out so that it can be read. -/
theorem readDeclaration_printed {voc : Vocabulary} {n : Node}
    (h : Assembled voc .expression n) (hstyle : style.Readable ind)
    (hnumber : ∀ v, voc.number v → ∃ i, v = .int i ∧ Text.IsShort i)
    (hcomponent : ∀ k, voc.component k → Naming.isIdentifierName k = true ∧
      keywords.contains (settledName k) = false) :
    ∃ text, print style (.exportDefault n) = .ok (.str text) ∧
      readDeclaration text =
        if isLegal (.exportDefault (reread n)) then some (.exportDefault (reread n)) else none := by
  obtain ⟨s, hs, t, -, hreads⟩ := h.printed hstyle hnumber hcomponent 0
  exact ⟨_, print_declaration hs, readDeclaration_of_reads hreads hstyle.terminator⟩

end

end Componentry.Script
