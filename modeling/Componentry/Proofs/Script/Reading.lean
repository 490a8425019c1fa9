import Componentry.Proofs.Script.Grammar
import Componentry.Proofs.Script.Lexing
import Mathlib.Data.List.Forall2

/-!
# Reading pieces of text

`ReadsAs` relates a piece of text to its first token and to what a reader makes of it: the reader
takes the lexemes of the piece and stops behind them, whatever follows that cannot go on with the
piece. Pieces that are read so make up lists, with commas between them or each on a line of its own.
Nothing here depends on how text is printed.
-/

namespace Componentry.Script

variable {α : Type}

/-- The lexemes of a piece of text before separate text: the first token, which takes over whether a
line ends before the piece, and the lexemes behind it. `e` tells whether the piece ends with a line
end. -/
def Lexes (cs : List Char) (t : Token) (ls : List Lexeme) (e : Bool) : Prop :=
  ∀ b rest, isSeparate rest = true →
    lexemes b (cs ++ rest) = (lexemes e rest).map fun more => ⟨t, b⟩ :: (ls ++ more)

/-- Whether what follows a piece cannot go on with it. -/
def Stops (stop : Lexeme → Prop) (tail : List Lexeme) : Prop := ∀ l ∈ tail.head?, stop l

theorem Stops.nil {stop : Lexeme → Prop} : Stops stop [] := nofun

theorem Stops.cons {stop : Lexeme → Prop} {l : Lexeme} (h : stop l) {tail : List Lexeme} :
    Stops stop (l :: tail) := by
  intro m hm
  cases hm
  exact h

def Lexeme.endsExpression (l : Lexeme) : Prop := l.token.extends = false

def Lexeme.endsMember (l : Lexeme) : Prop := l.token = .mark ',' ∨ l.token = .mark '\x7d'

/-- The lexemes before which a statement ends without a semicolon. -/
def Lexeme.endsStatement (l : Lexeme) : Prop :=
  l.token = .mark '\x7d' ∨ l.broken = true ∧ l.token.continues = false ∧ l.token ≠ .mark ';'

/-- A piece of text that begins with a token and is read as `a`, at any depth that its lexemes
reach. -/
def ReadsAs (reader : Nat → Reader α) (stop : Lexeme → Prop) (cs : List Char) (t : Token)
    (a : α) : Prop :=
  ∃ ls e, Lexes cs t ls e ∧ ∀ depth b tail, ls.length < depth → Stops stop tail →
    reader depth (⟨t, b⟩ :: (ls ++ tail)) = some (a, tail)

abbrev Reads (cs : List Char) (t : Token) (n : Node) : Prop :=
  ReadsAs expression Lexeme.endsExpression cs t n

abbrev ReadsMember (cs : List Char) (t : Token) (n : Node) : Prop :=
  ReadsAs (fun depth => member (expression depth)) Lexeme.endsMember cs t n

abbrev ReadsStatement (cs : List Char) (t : Token) (n : Node) : Prop :=
  ReadsAs (fun depth => statement (expression depth)) Lexeme.endsStatement cs t n

/-- The marks that go on with no character. -/
def brackets : List Char := ['(', ')', '\x7b', '\x7d', '[', ']', ',', ':', ';']

theorem lexemes_bracket (b : Bool) {c : Char} (h : c ∈ brackets) (cs : List Char) :
    lexemes b (c :: cs) = (lexemes false cs).map (⟨.mark c, b⟩ :: ·) := by
  simp only [brackets, List.mem_cons, List.not_mem_nil, or_false] at h
  apply lexemes_mark b
  · rcases h with rfl | rfl | rfl | rfl | rfl | rfl | rfl | rfl | rfl <;> decide
  · cases cs with
    | nil => rfl
    | cons d cs => rcases h with rfl | rfl | rfl | rfl | rfl | rfl | rfl | rfl | rfl <;> rfl

theorem isSeparate_bracket {c : Char} (h : c ∈ brackets) (cs : List Char) :
    isSeparate (c :: cs) = true := by
  simp only [brackets, List.mem_cons, List.not_mem_nil, or_false] at h
  rcases h with rfl | rfl | rfl | rfl | rfl | rfl | rfl | rfl | rfl <;> rfl

theorem isSeparate_blank {ws : List Char} (h : IsBlank ws) {cs : List Char}
    (hcs : isSeparate cs = true) : isSeparate (ws ++ cs) = true := by
  cases ws with
  | nil => exact hcs
  | cons c ws =>
    have hw := h c List.mem_cons_self
    simp only [List.cons_append, isSeparate, List.head?_cons, Option.all_some, Bool.and_eq_true,
      Bool.not_eq_true', bne_iff_ne]
    constructor
    · by_contra hn
      obtain ⟨hl, hs⟩ := not_white_of_toNat (toNat_of_continuesName (Bool.not_eq_false _ ▸ hn))
      rw [hl, hs] at hw
      simp at hw
    · rintro rfl
      revert hw
      decide

theorem isBlank_nil : IsBlank [] := fun _ hc => nomatch hc

theorem isBlank_cons {c : Char} {cs : List Char} (hc : endsLine c = true ∨ isSpace c = true)
    (hcs : IsBlank cs) : IsBlank (c :: cs) := List.forall_mem_cons.mpr ⟨hc, hcs⟩

theorem isBlank_append {cs ds : List Char} (hcs : IsBlank cs) (hds : IsBlank ds) :
    IsBlank (cs ++ ds) := List.forall_mem_append.mpr ⟨hcs, hds⟩

structure Layout where
  before : List Char
  between : List Char
  after : List Char
  before_blank : IsBlank before
  between_blank : IsBlank between
  after_blank : IsBlank after

/-- Items with separators between them and a closing mark behind them. -/
def Layout.list (layout : Layout) (separator : List Char) (close : Char) :
    List (List Char) → List Char
  | [] => []
  | [item] => layout.before ++ (item ++ (layout.after ++ [close]))
  | item :: next :: items =>
    layout.before ++
      (item ++ (separator ++ (layout.between ++ layout.list separator close (next :: items))))

def Layout.inline : Layout where
  before := []
  between := [' ']
  after := []
  before_blank := isBlank_nil
  between_blank := isBlank_cons (Or.inr rfl) isBlank_nil
  after_blank := isBlank_nil

/-- Whether the first lexeme of a list follows a line end, given whether one precedes the list. -/
def Layout.breaks (layout : Layout) (b : Bool) : Bool := b || layout.before.any endsLine

/-- A piece of text that is read as `a` and begins with one of certain tokens. -/
def ReadsFrom (first : Token → Prop) (reader : Nat → Reader α) (stop : Lexeme → Prop)
    (cs : List Char) (a : α) : Prop := ∃ t, first t ∧ ReadsAs reader stop cs t a

/-- The text of a list, which is read up to the mark that closes it. -/
def ReadsList (first : Token → Prop) (reader : Nat → Nat → Reader (List α)) (layout : Layout)
    (cs : List Char) (as : List α) : Prop :=
  ∃ t, first t ∧ ∃ ls, (∀ b rest, lexemes b (cs ++ rest) =
      (lexemes false rest).map fun more => ⟨t, layout.breaks b⟩ :: (ls ++ more)) ∧
    ∀ depth fuel b tail, ls.length < depth → ls.length < fuel →
      reader depth fuel (⟨t, b⟩ :: (ls ++ tail)) = some (as, tail)

section

variable {first : Token → Prop} {reader : Nat → Reader α} {stop : Lexeme → Prop}
  {item next : List Char} {items : List (List Char)} {a : α} {as : List α} {close : Char}

theorem Layout.lexemes_last (layout : Layout) (hclose : close ∈ brackets) {t : Token}
    {ls : List Lexeme} {e : Bool} (h : Lexes item t ls e) (b : Bool) (separator rest : List Char) :
    lexemes b (layout.list separator close [item] ++ rest) =
      (lexemes false rest).map fun more => ⟨t, layout.breaks b⟩ ::
        (ls ++ ⟨.mark close, e || layout.after.any endsLine⟩ :: more) := by
  have hafter : isSeparate (layout.after ++ close :: rest) = true :=
    isSeparate_blank layout.after_blank (isSeparate_bracket hclose rest)
  rw [Layout.list]
  simp only [List.append_assoc, List.singleton_append]
  rw [lexemes_blank layout.before_blank, h _ _ hafter, lexemes_blank layout.after_blank,
    lexemes_bracket _ hclose, Option.map_map]
  rfl

theorem separated_list_last (layout : Layout) (hclose : close ∈ brackets) (hne : close ≠ ',')
    (hfirst : ∀ t, first t → t ≠ .mark close) (hstop : ∀ b, stop ⟨.mark close, b⟩)
    (h : ReadsFrom first reader stop item a) :
    ReadsList first (fun depth => separated (reader depth) close) layout
      (layout.list [','] close [item]) [a] := by
  obtain ⟨t, ht, ls, e, hlex, hread⟩ := h
  let last : Lexeme := ⟨.mark close, e || layout.after.any endsLine⟩
  refine ⟨t, ht, ls ++ [last], fun b rest => ?_, fun depth fuel b tail hd hf => ?_⟩
  · rw [layout.lexemes_last hclose hlex]
    simp only [last, List.append_assoc, List.singleton_append]
  · rw [List.length_append, List.length_singleton] at hd hf
    obtain ⟨fuel, rfl⟩ : ∃ k, fuel = k + 1 := Nat.exists_eq_add_of_le' (by omega)
    have hr : reader depth (⟨t, b⟩ :: (ls ++ last :: tail)) = some (a, last :: tail) :=
      hread depth b (last :: tail) (by omega) (.cons (hstop _))
    rw [List.append_assoc, List.singleton_append]
    exact separated_last (hfirst t ht) hne hr

theorem separated_list_next (layout : Layout) (hfirst : ∀ t, first t → t ≠ .mark close)
    (hstop : ∀ b, stop ⟨.mark ',', b⟩) (h : ReadsFrom first reader stop item a)
    (hrest : ReadsList first (fun depth => separated (reader depth) close) layout
      (layout.list [','] close (next :: items)) as) :
    ReadsList first (fun depth => separated (reader depth) close) layout
      (layout.list [','] close (item :: next :: items)) (a :: as) := by
  obtain ⟨t, ht, ls, e, hlex, hread⟩ := h
  obtain ⟨t', ht', ls', hlex', hread'⟩ := hrest
  have hcomma : ',' ∈ brackets := by decide
  let second : Lexeme := ⟨t', layout.breaks (layout.between.any endsLine)⟩
  refine ⟨t, ht, ls ++ ⟨.mark ',', e⟩ :: second :: ls', fun b rest => ?_,
    fun depth fuel b tail hd hf => ?_⟩
  · rw [Layout.list]
    simp only [List.append_assoc, List.cons_append, List.nil_append]
    rw [lexemes_blank layout.before_blank, hlex _ _ (isSeparate_bracket hcomma _),
      lexemes_bracket _ hcomma, lexemes_blank layout.between_blank, hlex', Option.map_map,
      Option.map_map, Bool.false_or]
    rfl
  · simp only [List.length_append, List.length_cons] at hd hf
    obtain ⟨fuel, rfl⟩ : ∃ k, fuel = k + 1 := Nat.exists_eq_add_of_le' (by omega)
    have hr := hread depth b (⟨.mark ',', e⟩ :: second :: (ls' ++ tail)) (by omega)
      (.cons (hstop _))
    have hs := hread' depth fuel second.broken tail (by omega) (by omega)
    rw [List.append_assoc]
    exact separated_next (hfirst t ht) hr hs

theorem separated_list (layout : Layout) (hclose : close ∈ brackets) (hne : close ≠ ',')
    (hfirst : ∀ t, first t → t ≠ .mark close)
    (hstop : ∀ b, stop ⟨.mark ',', b⟩ ∧ stop ⟨.mark close, b⟩)
    (h : List.Forall₂ (ReadsFrom first reader stop) items as) (hitems : items ≠ []) :
    ReadsList first (fun depth => separated (reader depth) close) layout
      (layout.list [','] close items) as := by
  induction h with
  | nil => exact absurd rfl hitems
  | cons hitem hrest ih =>
    cases hrest with
    | nil => exact separated_list_last layout hclose hne hfirst (fun b => (hstop b).2) hitem
    | cons =>
      apply separated_list_next layout hfirst (fun b => (hstop b).1) hitem
      exact ih (List.cons_ne_nil _ _)

theorem repeated_list_last (layout : Layout) (hclose : close ∈ brackets)
    (hfirst : ∀ t, first t → t ≠ .mark close) (hstop : ∀ b, stop ⟨.mark close, b⟩)
    (h : ReadsFrom first reader stop item a) :
    ReadsList first (fun depth => repeated (reader depth) close) layout
      (layout.list [] close [item]) [a] := by
  obtain ⟨t, ht, ls, e, hlex, hread⟩ := h
  let last : Lexeme := ⟨.mark close, e || layout.after.any endsLine⟩
  refine ⟨t, ht, ls ++ [last], fun b rest => ?_, fun depth fuel b tail hd hf => ?_⟩
  · rw [layout.lexemes_last hclose hlex]
    simp only [last, List.append_assoc, List.singleton_append]
  · rw [List.length_append, List.length_singleton] at hd hf
    -- one step reads the item, and another finds the closing mark
    obtain ⟨fuel, rfl⟩ : ∃ k, fuel = k + 2 := Nat.exists_eq_add_of_le' (by omega)
    have hr := hread depth b (last :: tail) (by omega) (.cons (hstop _))
    rw [List.append_assoc, List.singleton_append]
    exact repeated_next (hfirst t ht) hr (repeated_close _ _ _ _ _)

/-- What stands on the next line is told from the item before it only if it cannot go on with it. -/
theorem repeated_list_next (layout : Layout) (hline : layout.between.any endsLine = true)
    (hsep : ∀ cs, isSeparate (layout.between ++ cs) = true)
    (hfirst : ∀ t, first t → t ≠ .mark close) (hstop : ∀ t, first t → stop ⟨t, true⟩)
    (h : ReadsFrom first reader stop item a)
    (hrest : ReadsList first (fun depth => repeated (reader depth) close) layout
      (layout.list [] close (next :: items)) as) :
    ReadsList first (fun depth => repeated (reader depth) close) layout
      (layout.list [] close (item :: next :: items)) (a :: as) := by
  obtain ⟨t, ht, ls, e, hlex, hread⟩ := h
  obtain ⟨t', ht', ls', hlex', hread'⟩ := hrest
  have hbreaks : layout.breaks (e || layout.between.any endsLine) = true := by
    rw [hline, Bool.or_true, Layout.breaks, Bool.true_or]
  refine ⟨t, ht, ls ++ ⟨t', true⟩ :: ls', fun b rest => ?_, fun depth fuel b tail hd hf => ?_⟩
  · rw [Layout.list]
    simp only [List.append_assoc, List.nil_append, List.cons_append]
    rw [lexemes_blank layout.before_blank, hlex _ _ (hsep _),
      lexemes_blank layout.between_blank, hlex', hbreaks, Option.map_map]
    rfl
  · simp only [List.length_append, List.length_cons] at hd hf
    obtain ⟨fuel, rfl⟩ : ∃ k, fuel = k + 1 := Nat.exists_eq_add_of_le' (by omega)
    have hr := hread depth b (⟨t', true⟩ :: (ls' ++ tail)) (by omega) (.cons (hstop t' ht'))
    have hs := hread' depth fuel true tail (by omega) (by omega)
    rw [List.append_assoc]
    exact repeated_next (hfirst t ht) hr hs

theorem repeated_list (layout : Layout) (hline : layout.between.any endsLine = true)
    (hfirst : ∀ t, first t → t ≠ .mark '\x7d' ∧ t.continues = false ∧ t ≠ .mark ';')
    (hsep : ∀ cs, isSeparate (layout.between ++ cs) = true)
    (h : List.Forall₂ (ReadsFrom first reader Lexeme.endsStatement) items as)
    (hitems : items ≠ []) :
    ReadsList first (fun depth => repeated (reader depth) '\x7d') layout
      (layout.list [] '\x7d' items) as := by
  have hbrace : ∀ t, first t → t ≠ .mark '\x7d' := fun t ht => (hfirst t ht).1
  induction h with
  | nil => exact absurd rfl hitems
  | cons hitem hrest ih =>
    cases hrest with
    | nil => exact repeated_list_last layout (by decide) hbrace (fun b => Or.inl rfl) hitem
    | cons =>
      apply repeated_list_next layout hline hsep hbrace _ hitem
      · exact ih (List.cons_ne_nil _ _)
      · intro t ht
        exact Or.inr ⟨rfl, (hfirst t ht).2⟩

end

end Componentry.Script
