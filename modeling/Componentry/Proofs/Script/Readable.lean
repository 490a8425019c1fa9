import Componentry.Program.Machine
import Componentry.Proofs.Script.Divided
import Componentry.Proofs.Script.Expressed
import Componentry.Proofs.Script.Roomy

/-!
# Nestings and divisions of printed texts

The printed text of an expression is read as the expression exactly where it keeps its nesting, and
the text of a block as its statements exactly where these stay apart. What is printed at all is read
as the text that is printed with room for every margin.
-/

namespace Componentry.Script

variable {n : Node} {es : List Node} {terminated : Bool}

theorem Nested.isTyped {role : Role} (h : Nested role n) : n.Everywhere Node.IsTyped := by
  have hname (k : String) : (Node.identifier (.str k)).Everywhere Node.IsTyped :=
    .intro ⟨k, rfl⟩ nofun
  induction h with
  | this | null => exact .intro trivial nofun
  | bool b => exact .intro ⟨b, rfl⟩ nofun
  | number i => exact .intro (.inl (.inl ⟨i, rfl⟩)) nofun
  | text s => exact .intro ⟨s, rfl⟩ nofun
  | name => exact hname _
  | array _ ih => exact .intro trivial ih
  | object _ ih => exact .intro trivial ih
  | @property key v k hkey _ ih =>
    have htyped : key.Everywhere Node.IsTyped := by
      rcases hkey with rfl | rfl
      · exact hname k
      · exact .intro ⟨k, rfl⟩ nofun
    exact .intro ⟨false, rfl, nofun⟩
      (List.forall_mem_cons.mpr ⟨htyped, List.forall_mem_singleton.mpr ih⟩)
  | binding =>
    exact .intro ⟨true, rfl, fun _ => ⟨_, _, rfl, rfl⟩⟩
      (List.forall_mem_cons.mpr ⟨hname _, List.forall_mem_singleton.mpr (hname _)⟩)
  | function _ _ ih =>
    exact .intro trivial (List.forall_mem_cons.mpr
      ⟨ih, List.forall_mem_map.mpr fun k _ => hname k⟩)
  | access _ k ih =>
    exact .intro ⟨false, rfl⟩
      (List.forall_mem_cons.mpr ⟨ih, List.forall_mem_singleton.mpr (hname k)⟩)
  | selection _ _ iho ihp =>
    exact .intro ⟨true, rfl⟩ (List.forall_mem_cons.mpr ⟨iho, List.forall_mem_singleton.mpr ihp⟩)
  | operation _ _ ih => exact .intro ⟨_, rfl⟩ (List.forall_mem_singleton.mpr ih)
  | assignment _ _ _ ihl ihr =>
    exact .intro ⟨_, rfl⟩ (List.forall_mem_cons.mpr ⟨ihl, List.forall_mem_singleton.mpr ihr⟩)
  | call _ _ ihc ihas => exact .intro trivial (List.forall_mem_cons.mpr ⟨ihc, ihas⟩)

theorem everywhere_statementBlock_iff {P : Node → Prop} (hblock : P (statementBlock es))
    (hstatement : ∀ e ∈ es, P (.expressionStatement e)) :
    (statementBlock es).Everywhere P ↔ ∀ e ∈ es, e.Everywhere P := by
  refine ⟨fun h e he => ?_, fun h => .intro hblock (List.forall_mem_map.mpr fun e he =>
    .intro (hstatement e he) (List.forall_mem_singleton.mpr (h e he)))⟩
  exact (h.children _ (List.mem_map_of_mem he)).children e List.mem_cons_self

def terminatorText (terminated : Bool) : List Char := if terminated then [';'] else []

theorem lexed_statement {e : Node} {cs : List Char} (h : Spelled e cs) (terminated : Bool)
    {rest : List Char} (hrest : isSeparate rest = true) :
    (∃ ls f c, Written true (.one .expression e) ls ∧
      lexemes true (cs ++ (terminatorText terminated ++ rest)) =
        (lexemes f rest).map fun more => ls ++ (terminatorLexemes terminated c ++ more)) ∨
    lexemes true (cs ++ (terminatorText terminated ++ rest)) = none ∧ isKept e = false := by
  have hsemicolon : ';' ∈ brackets := by decide
  cases terminated with
  | false =>
    obtain ⟨ls, f, hw, hlex⟩ | hnone := h.separate true hrest
    · exact Or.inl ⟨ls, f, false, hw, hlex⟩
    · exact Or.inr hnone
  | true =>
    obtain ⟨ls, f, hw, hlex⟩ | hnone := h.separate true (isSeparate_bracket hsemicolon rest)
    · refine Or.inl ⟨ls, false, f, hw, ?_⟩
      rw [terminatorText, if_pos rfl, List.singleton_append, hlex, lexemes_bracket f hsemicolon,
        Option.map_map]
      rfl
    · exact Or.inr hnone

/-- The text of the statements behind the opening brace of a block, and of the closing one. -/
def LexedBlock (terminated : Bool) (es : List Node) (cs : List Char) : Prop :=
  ∀ rest, (∃ ls, WrittenBlock terminated es ls ∧
      lexemes true (cs ++ rest) = (lexemes false rest).map (ls ++ ·)) ∨
    lexemes true (cs ++ rest) = none ∧ staysApart terminated es = false

theorem staysApart_eq_false {e : Node} (h : isKept e = false) (es : List Node) :
    staysApart terminated (e :: es) = false := by
  rw [staysApart_cons, h]
  rfl

section

variable {inner outer cs : List Char} {e : Node}

theorem lexedBlock_last (hinner : IsBlank inner) (houter : IsBlank outer) (h : Spelled e cs)
    (terminated : Bool) : LexedBlock terminated [e]
      ((Layout.lines hinner houter).list [] '\x7d' [cs ++ terminatorText terminated]) := by
  intro rest
  have hclose : '\x7d' ∈ brackets := by decide
  have hafter : isSeparate ('\n' :: (outer ++ '\x7d' :: rest)) = true := rfl
  have htext : (Layout.lines hinner houter).list [] '\x7d' [cs ++ terminatorText terminated] ++
      rest = inner ++ (cs ++ (terminatorText terminated ++ '\n' :: (outer ++ '\x7d' :: rest))) := by
    simp [Layout.list, Layout.lines]
  rw [htext, lexemes_blank hinner, Bool.true_or]
  obtain ⟨ls, f, c, hw, hlex⟩ | ⟨hlex, hkept⟩ := lexed_statement h terminated hafter
  · refine Or.inl ⟨_, .cons hw (.nil true) c, ?_⟩
    rw [hlex, lexemes_lineEnd f rfl, lexemes_blank houter, Bool.true_or,
      lexemes_bracket true hclose, Option.map_map]
    simp only [Function.comp_def, List.append_assoc, List.singleton_append]
  · exact Or.inr ⟨hlex, staysApart_eq_false hkept []⟩

theorem lexedBlock_next (hinner : IsBlank inner) (houter : IsBlank outer) (h : Spelled e cs)
    {item : List Char} {items : List (List Char)}
    (hrest : LexedBlock terminated es
      ((Layout.lines hinner houter).list [] '\x7d' (item :: items))) :
    LexedBlock terminated (e :: es) ((Layout.lines hinner houter).list [] '\x7d'
      ((cs ++ terminatorText terminated) :: item :: items)) := by
  intro rest
  have hafter : isSeparate ('\n' :: ((Layout.lines hinner houter).list [] '\x7d' (item :: items) ++
      rest)) = true := rfl
  have htext : (Layout.lines hinner houter).list [] '\x7d'
      ((cs ++ terminatorText terminated) :: item :: items) ++ rest =
      inner ++ (cs ++ (terminatorText terminated ++ '\n' ::
        ((Layout.lines hinner houter).list [] '\x7d' (item :: items) ++ rest))) := by
    rw [Layout.list]
    simp [Layout.lines]
  rw [htext, lexemes_blank hinner, Bool.true_or]
  obtain ⟨ls, f, c, hw, hlex⟩ | ⟨hlex, hkept⟩ := lexed_statement h terminated hafter
  · rw [hlex, lexemes_lineEnd f rfl]
    obtain ⟨ls', hw', hlex'⟩ | ⟨hlex', hapart⟩ := hrest rest
    · refine Or.inl ⟨_, .cons hw hw' c, ?_⟩
      rw [hlex', Option.map_map]
      simp only [Function.comp_def, List.append_assoc]
    · refine Or.inr ⟨by rw [hlex']; rfl, ?_⟩
      rw [staysApart_cons, hapart, Bool.and_false]
  · exact Or.inr ⟨hlex, staysApart_eq_false hkept es⟩

theorem lexedBlock_lines (hinner : IsBlank inner) (houter : IsBlank outer)
    {items : List (List Char)} (h : List.Forall₂ (fun item e =>
      ∃ cs, item = cs ++ terminatorText terminated ∧ Spelled e cs) items es) (hitems : items ≠ []) :
    LexedBlock terminated es ((Layout.lines hinner houter).list [] '\x7d' items) := by
  induction h with
  | nil => exact absurd rfl hitems
  | cons hitem hrest ih =>
    obtain ⟨cs, rfl, hspelled⟩ := hitem
    cases hrest with
    | nil => exact lexedBlock_last hinner houter hspelled terminated
    | cons => exact lexedBlock_next hinner houter hspelled (ih (List.cons_ne_nil _ _))

end

section

variable {style : Style} {ind : String}

/-- The printed text of an expression is read as the expression exactly where it keeps its
nesting and can be read from a text at all. -/
theorem readExpression_iff (hstyle : style.Readable ind) (h : Nested .expression n)
    (hnumerals : n.Everywhere Node.HasNumeral) :
    ∃ text, print style n = .ok (.str text) ∧
      (readExpression text = some (regrouped n) ↔
        isKept n = true ∧ isLegal (regrouped n) = true) := by
  obtain ⟨s, hprint, hspelled⟩ := h.isSpelled hstyle hnumerals 0
  refine ⟨s, hprint, ?_⟩
  have hend : isSeparate [] = true := rfl
  obtain ⟨ls, e, hw, hlex⟩ | ⟨hlex, hkept⟩ := hspelled.separate false hend
  · rw [List.append_nil, lexemes_nil, Option.map_some, List.append_nil] at hlex
    simp only [readExpression, hlex, Option.bind_eq_bind, Option.bind_some]
    constructor
    · intro hread
      split at hread
      · rename_i m hm
        split_ifs at hread with hlegal
        cases hread
        rw [← List.append_nil ls] at hm
        exact ⟨(hw.isRecovered.expression _ _ _ hm).1, hlegal⟩
      · cases hread
    · rintro ⟨hkept, hlegal⟩
      have hread : expression ls.length (ls ++ []) = some (regrouped n, []) :=
        (hw.isReadBack hkept).readsBack ls.length [] le_rfl .nil
      rw [List.append_nil] at hread
      rw [hread]
      exact if_pos hlegal
  · rw [List.append_nil] at hlex
    have hkept : isKept n = false := hkept
    rw [readExpression, hlex, hkept, Option.bind_eq_bind, Option.bind_none]
    simp only [reduceCtorEq, Bool.false_eq_true, false_and]

theorem readBlock_lexed {text : String} {cs : List Char}
    (htext : text.toList = '\x7b' :: '\n' :: cs) (h : LexedBlock terminated es cs) :
    readBlock text = some (.blockStatement (statements es)) ↔
      staysApart terminated es = true ∧ isLegal (.blockStatement (statements es)) = true := by
  have hlex : lexemes false text.toList =
      (lexemes true (cs ++ [])).map (⟨.mark '\x7b', false⟩ :: ·) := by
    rw [htext, lexemes_bracket false (by decide), lexemes_lineEnd false rfl, List.append_nil]
  obtain ⟨ls, hw, hcs⟩ | ⟨hcs, hapart⟩ := h []
  · rw [hcs, lexemes_nil, Option.map_some, Option.map_some] at hlex
    rw [readBlock, hlex, Option.bind_eq_bind, Option.bind_some, List.append_nil,
      behindMark?_mark, Option.bind_eq_bind, Option.bind_some, List.length_cons]
    constructor
    · intro hblock
      obtain ⟨⟨block, r⟩, hbody, hblock⟩ := Option.bind_eq_some_iff.mp hblock
      obtain ⟨ns, hns, rfl⟩ := body_eq_some.mp hbody
      cases r with
      | nil =>
        dsimp only at hblock
        split_ifs at hblock with hlegal
        cases hblock
        rw [← List.append_nil ls] at hns
        exact ⟨(staysApart_of_repeated hw hns).1, hlegal⟩
      | cons => cases hblock
    · rintro ⟨hapart, hlegal⟩
      have hbody := repeated_of_staysApart hw hapart (ls.length + 1) (ls.length + 1) []
        (by omega) (by omega)
      rw [List.append_nil] at hbody
      rw [body_eq_some.mpr ⟨_, hbody, rfl⟩, Option.bind_some]
      exact if_pos hlegal
  · rw [hcs, Option.map_none] at hlex
    rw [readBlock, hlex, hapart, Option.bind_eq_bind, Option.bind_none]
    simp only [reduceCtorEq, Bool.false_eq_true, false_and]

theorem statements_texts (hstyle : style.Readable ind)
    (hterminator : style.terminator.toList = terminatorText terminated)
    (hes : ∀ e ∈ es, Nested .expression e ∧ e.Everywhere Node.HasNumeral) (level : Nat) :
    ∃ ss : List String,
      printNodes style level (es.map .expressionStatement) = .ok (ss.map .str) ∧
      List.Forall₂ (fun item e => ∃ cs, item = cs ++ terminatorText terminated ∧ Spelled e cs)
        (ss.map String.toList) es := by
  have htext : ∀ n ∈ es.map Node.expressionStatement, ∃ s,
      printNode style level n = .ok (.str s) ∧ ∀ e, n = .expressionStatement e →
        ∃ cs, s.toList = cs ++ terminatorText terminated ∧ Spelled e cs := by
    refine List.forall_mem_map.mpr fun e he => ?_
    obtain ⟨s, hs, hspelled⟩ := (hes e he).1.isSpelled hstyle (hes e he).2 level
    refine ⟨_, printNode_expressionStatement hs, ?_⟩
    rintro _ ⟨⟩
    exact ⟨s.toList, by rw [String.toList_append, hterminator], hspelled⟩
  obtain ⟨ss, hprint, hss⟩ := printNodes_texts htext
  refine ⟨ss, hprint, ?_⟩
  rw [List.forall₂_map_left_iff]
  exact (List.forall₂_map_right_iff.mp hss).imp fun s e h => h e rfl

theorem statementBlock_regrouped (es : List Node) :
    statementBlock (es.map regrouped) = .blockStatement (statements es) := by
  rw [statementBlock, List.map_map]
  rfl

/-- The printed text of a block is read as its statements exactly where these stay apart and can be
read from a text at all. -/
theorem readBlock_iff (hstyle : style.Readable ind)
    (hterminator : style.terminator.toList = terminatorText terminated)
    (hes : ∀ e ∈ es, Nested .expression e ∧ e.Everywhere Node.HasNumeral) :
    ∃ text, print style (statementBlock es) = .ok (.str text) ∧
      (readBlock text = some (statementBlock (es.map regrouped)) ↔
        staysApart terminated es = true ∧
          isLegal (statementBlock (es.map regrouped)) = true) := by
  rw [statementBlock_regrouped]
  by_cases hne : es = []
  · subst hne
    have hlex : lexemes false "\x7b\x7d".toList =
        some [⟨.mark '\x7b', false⟩, ⟨.mark '\x7d', false⟩] := by
      rw [show "\x7b\x7d".toList = ['\x7b', '\x7d'] from rfl, lexemes_bracket false (by decide),
        lexemes_bracket false (by decide), lexemes_nil]
      rfl
    refine ⟨"\x7b\x7d", rfl, fun _ => ⟨by simp [staysApart], rfl⟩, fun _ => ?_⟩
    rw [readBlock, hlex]
    rfl
  · obtain ⟨ss, hprint, hss⟩ := statements_texts hstyle hterminator hes 1
    refine ⟨_, printNode_block (mt List.map_eq_nil_iff.mp hne) hstyle.indents hprint, ?_⟩
    have hitems : ss ≠ [] := by
      rintro rfl
      cases hss
      exact hne rfl
    apply readBlock_lexed _ (lexedBlock_lines (isBlank_repeated hstyle.blank 1)
      (isBlank_repeated hstyle.blank 0) hss (mt List.map_eq_nil_iff.mp hitems))
    rw [toList_broken, show "\x7d".toList = ['\x7d'] from rfl,
      toList_join_lines "" _ _ _ (isBlank_repeated hstyle.blank 1) (isBlank_repeated hstyle.blank 0)
        hitems]
    rfl

end

end Componentry.Script

namespace Componentry

open Script

/-- What is printed keeps its nesting, and its statements apart, exactly where the tree allows the
printer to leave out the parentheses and semicolons that it leaves out. -/
theorem Settings.nesting_read_iff [Machine] (s : Settings) :
    (∀ n, Nested .expression n →
      (∀ text, print s.style n = .ok (.str text) → (readExpression text = some (regrouped n) ↔
        isKept n = true ∧ isLegal (regrouped n) = true)) ∧
      (n.Everywhere Node.HasNumeral → ∃ text, s.PrintsAs 0 n text)) ∧
    ∀ es, (∀ e ∈ es, Nested .expression e) →
      (∀ text, print s.style (statementBlock es) = .ok (.str text) →
        (readBlock text = some (statementBlock (es.map regrouped)) ↔
          staysApart (s.value .semicolons).truthy es = true ∧
            isLegal (statementBlock (es.map regrouped)) = true)) ∧
      ((statementBlock es).Everywhere Node.HasNumeral →
        ∃ text, s.PrintsAs 0 (statementBlock es) text) := by
  have hstyle := s.readable_roomy
  have hterminator : s.roomy.terminator.toList = terminatorText (s.value .semicolons).truthy := by
    change s.terminator.toList = _
    rw [terminator, terminatorText]
    split_ifs <;> rfl
  have htyped (es : List Node) (hes : ∀ e ∈ es, Nested .expression e) :
      (statementBlock es).Everywhere Node.IsTyped :=
    (everywhere_statementBlock_iff trivial fun _ _ => trivial).mpr fun e he => (hes e he).isTyped
  have hnumbers (es : List Node) (h : (statementBlock es).Everywhere Node.HasNumeral) :
      ∀ e ∈ es, e.Everywhere Node.HasNumeral :=
    (everywhere_statementBlock_iff trivial fun _ _ => trivial).mp h
  refine ⟨fun n hn => ⟨fun text htext => ?_, fun hnumerals => ?_⟩,
    fun es hes => ⟨fun text htext => ?_, fun hnumerals => ?_⟩⟩
  · obtain ⟨_, heq, hroomy, hnumerals⟩ := roomy_of_style hn.isTyped htext
    cases heq
    obtain ⟨_, hprint, hread⟩ := readExpression_iff hstyle hn hnumerals
    cases hroomy.symm.trans hprint
    exact hread
  · obtain ⟨text, hprint, -⟩ := readExpression_iff hstyle hn hnumerals
    exact ⟨text, printsAs_of_roomy hn.isTyped hprint⟩
  · obtain ⟨_, heq, hroomy, hnumerals⟩ := roomy_of_style (htyped es hes) htext
    cases heq
    obtain ⟨_, hprint, hread⟩ := readBlock_iff hstyle hterminator fun e he =>
      ⟨hes e he, hnumbers es hnumerals e he⟩
    cases hroomy.symm.trans hprint
    exact hread
  · obtain ⟨text, hprint, -⟩ := readBlock_iff hstyle hterminator fun e he =>
      ⟨hes e he, hnumbers es hnumerals e he⟩
    exact ⟨text, printsAs_of_roomy (htyped es hes) hprint⟩

section

open Componentry.Program

/-- A function that gives the value of a variable. -/
def getter : Node := .arrowFunction [] (.identifier (.str "a"))

theorem nested_getter : Nested .expression getter :=
  have hparams : ∀ k ∈ ([] : List String), IsName k ∧ isBindable k = true := nofun
  Nested.function hparams (.name (by decide))

/-- A call of a function is read back, but not an access to one, and the call does not stay apart
from the statement on the line before it. -/
theorem Settings.nesting_read_iff_getter :
    (∃ text, print Settings.default.style (.callExpression getter []) = .ok (.str text) ∧
      readExpression text = some (.callExpression getter [])) ∧
    (∃ text, print Settings.default.style
        (.memberExpression getter (.identifier (.str "b")) (.bool false)) = .ok (.str text) ∧
      readExpression text ≠
        some (.memberExpression getter (.identifier (.str "b")) (.bool false))) ∧
    ∃ text, print Settings.default.style
        (statementBlock [.identifier (.str "a"), .callExpression getter []]) = .ok (.str text) ∧
      readBlock text ≠
        some (statementBlock [.identifier (.str "a"), .callExpression getter []]) := by
  obtain ⟨hexpression, hblock⟩ := Settings.nesting_read_iff Settings.default
  have hcall : Nested .expression (.callExpression getter []) := .call nested_getter (by simp)
  have hname : Nested .expression (.identifier (.str "a")) := .name (by decide)
  refine ⟨⟨_, rfl, ?_⟩, ⟨_, rfl, ?_⟩, ⟨_, rfl, ?_⟩⟩
  · exact ((hexpression _ hcall).1 _ rfl).mpr (by decide)
  · exact mt ((hexpression _ (.access nested_getter "b")).1 _ rfl).mp (by decide)
  · exact mt ((hblock [.identifier (.str "a"), .callExpression getter []]
      (by simp [hname, hcall])).1 _ rfl).mp (by decide)

end

end Componentry
