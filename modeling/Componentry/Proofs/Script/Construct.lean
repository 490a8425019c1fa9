import Componentry.Component.Handler
import Componentry.Proofs.Script.Reading

/-!
# Reading constructs

One lemma for each construct of the generated script: if its parts are read, then so is the whole.
Where an expression begins with a name or a parenthesis, what follows decides that it is no arrow
function. The constructs here are the literals, the objects and the functions that return a value.
-/

namespace Componentry.Script

variable {cs : List Char} {t : Token} {ls tail : List Lexeme} {e : Bool} {n : Node}

theorem Stops.mark {c : Char} (h : (Token.mark c).extends = false) {b : Bool} {tail : List Lexeme} :
    Stops Lexeme.endsExpression (⟨.mark c, b⟩ :: tail) := .cons h

theorem suffixed_stop {tail : List Lexeme} (h : Stops Lexeme.endsExpression tail)
    (expr : Reader Node) (fuel : Nat) (n : Node) :
    suffixed expr (fuel + 1) n tail = some (n, tail) := by
  unfold suffixed
  split
  · exact absurd (h _ rfl) nofun
  · exact absurd (h _ rfl) nofun
  · exact absurd (h _ rfl) nofun
  · exact absurd (h _ rfl) nofun
  · rfl

theorem behindMark?_stop {tail : List Lexeme} (h : Stops Lexeme.endsExpression tail) {c : Char}
    (hc : (Token.mark c).extends = true) : behindMark? c tail = none := by
  cases tail with
  | nil => rfl
  | cons l tail =>
    refine behindMark?_of_ne (fun hl => ?_) l.broken tail
    have hs : l.token.extends = false := h l rfl
    rw [hl, hc] at hs
    cases hs

theorem arrowHead?_of_token (hw : ∀ s, t ≠ .word s) (hp : t ≠ .mark '(') (b : Bool)
    (ls : List Lexeme) : arrowHead? (⟨t, b⟩ :: ls) = none := by
  have hparam : parameter (⟨t, b⟩ :: ls) = none := by
    cases t with
    | word s => exact absurd rfl (hw s)
    | _ => rfl
  simp only [arrowHead?, behindMark?_of_ne hp, hparam, Option.map_none]

theorem arrowHead?_word (s : String) (b : Bool) {ls : List Lexeme}
    (h : ∀ l ∈ ls.head?, l.token ≠ .arrow) : arrowHead? (⟨.word s, b⟩ :: ls) = none := by
  have hp : Token.word s ≠ .mark '(' := nofun
  simp only [arrowHead?, behindMark?_of_ne hp, parameter]
  split
  · next hps =>
    split_ifs at hps
    · cases hps
      exact absurd rfl (h _ rfl)
    · cases hps
  · rfl

theorem arrowHead?_brace (b c : Bool) (ls : List Lexeme) :
    arrowHead? (⟨.mark '(', b⟩ :: ⟨.mark '\x7b', c⟩ :: ls) = none := rfl

theorem expressionOver_operand {expr : Reader Node} (hhead : arrowHead? ls = none)
    (h : operand expr ls = some (n, tail)) (htail : Stops Lexeme.endsExpression tail) :
    expressionOver expr ls = some (n, tail) := by
  simp only [expressionOver, hhead, h, Option.bind_eq_bind, Option.bind_some,
    behindMark?_stop htail (show (Token.mark '=').extends = true by decide), Option.pure_def]

theorem expressionOver_assignment {expr : Reader Node} {left right : Node} {rest : List Lexeme}
    {b : Bool} (hhead : arrowHead? ls = none)
    (h : operand expr ls = some (left, ⟨.mark '=', b⟩ :: rest)) (htarget : isTarget left = true)
    (hright : expr rest = some (right, tail)) :
    expressionOver expr ls = some (.assignmentExpression (.str "=") left right, tail) := by
  simp only [expressionOver, hhead, h, Option.bind_eq_bind, Option.bind_some, behindMark?_mark,
    htarget, if_true, hright, Option.pure_def]

theorem operand_primary {expr : Reader Node} (ht : operator? t = none) (b : Bool)
    (h : primary expr (⟨t, b⟩ :: ls) = some (n, tail)) :
    operand expr (⟨t, b⟩ :: ls) = suffixed expr (tail.length + 1) n tail := by
  simp only [operand, ht, h, Option.bind_eq_bind, Option.bind_some]

theorem reads_primary (ls : List Lexeme) (e : Bool) (hlex : Lexes cs t ls e)
    (ht : operator? t = none)
    (hhead : ∀ b tail, Stops Lexeme.endsExpression tail →
      arrowHead? (⟨t, b⟩ :: (ls ++ tail)) = none)
    (h : ∀ depth b tail, ls.length ≤ depth →
      primary (expression depth) (⟨t, b⟩ :: (ls ++ tail)) = some (n, tail)) : Reads cs t n := by
  refine ⟨ls, e, hlex, fun depth b tail hd htail => ?_⟩
  obtain ⟨depth, rfl⟩ : ∃ k, depth = k + 1 := Nat.exists_eq_add_of_le' (by omega)
  refine expressionOver_operand (hhead b tail htail) ?_ htail
  rw [operand_primary ht b (h depth b tail (by omega)), suffixed_stop htail]

theorem expression_mark {c : Char} (hc : c ∉ ['(', '[', '\x7b', '!', '-', '+', '~']) (depth : Nat)
    (b : Bool) (ls : List Lexeme) : expression depth (⟨.mark c, b⟩ :: ls) = none := by
  simp only [List.mem_cons, List.not_mem_nil, or_false, not_or] at hc
  obtain ⟨hp, hs, hb, hn, hm, ha, ht⟩ := hc
  cases depth with
  | zero => rfl
  | succ depth =>
    have hop : operator? (.mark c) = none := by
      unfold operator?
      split <;> simp_all
    have hprim : primary (expression depth) (⟨.mark c, b⟩ :: ls) = none := by
      unfold primary
      split <;> simp_all
    have hhead := arrowHead?_of_token (t := .mark c) nofun (by simpa using hp) b ls
    simp only [expression, expressionOver, hhead, operand, hop, hprim, Option.bind_eq_bind,
      Option.bind_none]

/-- Expressions begin with none of these marks, so a list of them ends where they stand. -/
theorem Reads.ne_mark (h : Reads cs t n) {c : Char}
    (hc : c ∉ ['(', '[', '\x7b', '!', '-', '+', '~']) : t ≠ .mark c := by
  rintro rfl
  obtain ⟨ls, e, -, hread⟩ := h
  have := hread (ls.length + 1) false [] (Nat.lt_succ_self _) .nil
  rw [expression_mark hc] at this
  cases this

theorem reads_text {quote : Char} (hq : IsQuote quote) (s : String) :
    Reads (quoted quote s.toList) (.text s) (.stringLiteral (.str s)) := by
  refine reads_primary [] false (fun b rest _ => ?_) rfl
    (fun b tail _ => arrowHead?_of_token (by simp) (by simp) b _) (fun depth b tail _ => rfl)
  rw [lexemes_quoted b hq, String.ofList_toList]
  rfl

theorem reads_natural (n : Nat) :
    Reads (Text.digits n) (.number n) (.numericLiteral (.int n)) := by
  refine reads_primary [] false (fun b rest hr => ?_) rfl
    (fun b tail _ => arrowHead?_of_token (by simp) (by simp) b _) (fun depth b tail _ => rfl)
  exact lexemes_natural b n hr

theorem lexes_word {name : List Char} (hb : name.head?.any beginsName = true)
    (hc : ∀ c ∈ name, continuesName c = true) :
    Lexes name (.word (String.ofList name)) [] false := by
  intro b rest hr
  apply lexemes_word b hb hc
  cases rest with
  | nil => rfl
  | cons c rest =>
    simp only [isSeparate, List.head?_cons, Option.all_some, Bool.and_eq_true] at hr
    exact hr.1

theorem reads_word {name : List Char} (hb : name.head?.any beginsName = true)
    (hc : ∀ c ∈ name, continuesName c = true)
    (hop : operator? (.word (String.ofList name)) = none)
    (h : operandOfWord? (String.ofList name) = some n) :
    Reads name (.word (String.ofList name)) n := by
  refine reads_primary [] false (lexes_word hb hc) hop (fun b tail htail => ?_)
    (fun depth b tail _ => ?_)
  · refine arrowHead?_word _ b fun l hl harrow => ?_
    have hs : l.token.extends = false := htail l hl
    rw [harrow] at hs
    cases hs
  · simp only [primary, h, Option.map_some]
    rfl

theorem reads_negative (n : Nat) :
    Reads ('-' :: Text.digits (n + 1)) (.mark '-') (.numericLiteral (.int (-(n + 1 : Nat)))) := by
  refine ⟨[⟨.number (n + 1), false⟩], false, fun b rest hr => ?_, fun depth b tail hd htail => ?_⟩
  · have hnot : ((Text.digits (n + 1) ++ rest).head?.any (goesOn '-')) = false := by
      cases hds : Text.digits (n + 1) with
      | nil => exact absurd hds (digits_ne_nil _)
      | cons d ds =>
        have hd : d.isDigit = true := isDigit_of_mem_digits (hds ▸ List.mem_cons_self)
        rw [List.cons_append, List.head?_cons, Option.any_some, ← Bool.not_eq_true]
        simp only [goesOn, Bool.or_eq_true, decide_eq_true_eq]
        rintro (rfl | rfl) <;> cases hd
    rw [List.cons_append, lexemes_mark b (by decide) hnot, lexemes_natural false _ hr,
      Option.map_map]
    rfl
  · obtain ⟨depth, rfl⟩ : ∃ k, depth = k + 1 := Nat.exists_eq_add_of_le' (by omega)
    refine expressionOver_operand (arrowHead?_of_token (by simp) (by simp) b _) ?_ htail
    have hnum : operand (expression depth) (⟨.number (n + 1), false⟩ :: tail) =
        some (.numericLiteral (.int (n + 1 : Nat)), tail) := by
      rw [operand_primary rfl false (n := .numericLiteral (.int (n + 1 : Nat)))
          (show _ = some (_, tail) from rfl),
        suffixed_stop htail]
    simp only [List.singleton_append, operand, operator?, hnum, Option.bind_eq_bind,
      Option.bind_some, applied]
    rw [if_pos ⟨trivial, by omega⟩]
    rfl

/-- A text between brackets, the first of which is `c`, that `reader` takes apart once it is behind
the first. -/
def ReadsBrackets {α : Type} (reader : Nat → Nat → Reader (List α)) (c : Char) (cs : List Char)
    (as : List α) : Prop :=
  ∃ ls, Lexes cs (.mark c) ls false ∧ ∀ depth fuel tail, ls.length ≤ depth → ls.length ≤ fuel →
    reader depth fuel (ls ++ tail) = some (as, tail)

theorem ReadsList.opened {α : Type} {first : Token → Prop} {reader : Nat → Nat → Reader (List α)}
    {layout : Layout} {as : List α} (h : ReadsList first reader layout cs as) {c : Char}
    (hc : c ∈ brackets) {ws : List Char} (hws : IsBlank ws) :
    ReadsBrackets reader c (c :: (ws ++ cs)) as := by
  obtain ⟨t, -, ls, hlex, hread⟩ := h
  refine ⟨⟨t, layout.breaks (ws.any endsLine)⟩ :: ls, fun b rest _ => ?_,
    fun depth fuel tail hd hf => ?_⟩
  · rw [List.cons_append, List.append_assoc, lexemes_bracket b hc, lexemes_blank hws, hlex,
      Option.map_map, Bool.false_or]
    rfl
  · rw [List.length_cons] at hd hf
    exact hread depth fuel _ tail (by omega) (by omega)

theorem lexes_brackets {c d : Char} (hc : c ∈ brackets) (hd : d ∈ brackets) :
    Lexes [c, d] (.mark c) [⟨.mark d, false⟩] false := by
  intro b rest _
  rw [List.cons_append, List.singleton_append, lexemes_bracket b hc, lexemes_bracket false hd,
    Option.map_map]
  rfl

/-- Nothing stands between brackets if the second comes right behind the first. -/
theorem readsBrackets_empty {α : Type} {reader : Nat → Nat → Reader (List α)} {c close : Char}
    (hc : c ∈ brackets) (hclose : close ∈ brackets)
    (h : ∀ depth fuel b tail,
      reader depth (fuel + 1) (⟨.mark close, b⟩ :: tail) = some ([], tail)) :
    ReadsBrackets reader c [c, close] [] := by
  refine ⟨_, lexes_brackets hc hclose, fun depth fuel tail _ hf => ?_⟩
  rw [List.length_singleton] at hf
  obtain ⟨fuel, rfl⟩ : ∃ k, fuel = k + 1 := Nat.exists_eq_add_of_le' hf
  exact h depth fuel false tail

theorem separated_empty {α : Type} (reader : Nat → Reader α) {c close : Char} (hc : c ∈ brackets)
    (hclose : close ∈ brackets) :
    ReadsBrackets (fun depth => separated (reader depth) close) c [c, close] [] :=
  readsBrackets_empty hc hclose fun _ => separated_close _ _

theorem repeated_empty {α : Type} (reader : Nat → Reader α) {c close : Char} (hc : c ∈ brackets)
    (hclose : close ∈ brackets) :
    ReadsBrackets (fun depth => repeated (reader depth) close) c [c, close] [] :=
  readsBrackets_empty hc hclose fun _ => repeated_close _ _

abbrev ReadsItems (cs : List Char) (ns : List Node) : Prop :=
  ReadsBrackets (fun depth => separated (expression depth) ']') '[' cs ns

abbrev ReadsArguments (cs : List Char) (ns : List Node) : Prop :=
  ReadsBrackets (fun depth => separated (expression depth) ')') '(' cs ns

abbrev ReadsMembers (cs : List Char) (ns : List Node) : Prop :=
  ReadsBrackets (fun depth => separated (member (expression depth)) '\x7d') '\x7b' cs ns

abbrev ReadsBody (cs : List Char) (ns : List Node) : Prop :=
  ReadsBrackets (fun depth => repeated (statement (expression depth)) '\x7d') '\x7b' cs ns

/-- An operand is read if it is between brackets and what they hold is read. -/
theorem ReadsBrackets.reads {α : Type} {reader : Nat → Nat → Reader (List α)} {c : Char}
    {as : List α} (h : ReadsBrackets reader c cs as) (hc : c ≠ '(')
    (hop : operator? (.mark c) = none)
    (hprimary : ∀ depth b ls tail, reader depth (ls.length + 1) ls = some (as, tail) →
      primary (expression depth) (⟨.mark c, b⟩ :: ls) = some (n, tail)) :
    Reads cs (.mark c) n := by
  obtain ⟨ls, hlex, hread⟩ := h
  refine reads_primary _ _ hlex hop (fun b tail _ => arrowHead?_of_token (by simp) (by simpa) b _)
    (fun depth b tail hd => ?_)
  exact hprimary depth b _ tail
    (hread depth _ tail hd (by rw [List.length_append]; omega))

theorem reads_array {ns : List Node} (h : ReadsItems cs ns) :
    Reads cs (.mark '[') (.arrayExpression ns) :=
  h.reads (by decide) rfl fun depth b ls tail hread => by
    simp only [primary, hread, Option.bind_eq_bind, Option.bind_some, Option.pure_def]

theorem reads_object {ns : List Node} (h : ReadsMembers cs ns) :
    Reads cs (.mark '\x7b') (.objectExpression ns) :=
  h.reads (by decide) rfl fun depth b ls tail hread => by
    simp only [primary, hread, Option.bind_eq_bind, Option.bind_some, Option.pure_def]

def arrowHead : List Char := ['(', ')', ' ', '=', '>', ' ']

theorem lexes_arrowHead (b : Bool) (cs : List Char) :
    lexemes b (arrowHead ++ cs) =
      (lexemes false cs).map (⟨.mark '(', b⟩ :: ⟨.mark ')', false⟩ :: ⟨.arrow, false⟩ :: ·) := by
  simp only [arrowHead, List.cons_append, List.nil_append]
  rw [lexemes_bracket b (by decide), lexemes_bracket false (by decide),
    lexemes_space false rfl rfl, lexemes_arrow, lexemes_space false rfl rfl, Option.map_map,
    Option.map_map]
  rfl

theorem arrowHead?_empty (b : Bool) (ls : List Lexeme) :
    arrowHead? (⟨.mark '(', b⟩ :: ⟨.mark ')', false⟩ :: ⟨.arrow, false⟩ :: ls) = some ([], ls) :=
  rfl

/-- A function whose body is an expression that begins with no brace. -/
theorem reads_function (h : Reads cs t n) (ht : t ≠ .mark '\x7b') :
    Reads (arrowHead ++ cs) (.mark '(') (.arrowFunction [] n) := by
  obtain ⟨ls, e, hlex, hread⟩ := h
  refine ⟨⟨.mark ')', false⟩ :: ⟨.arrow, false⟩ :: ⟨t, false⟩ :: ls, e, fun b rest hr => ?_,
    fun depth b tail hd htail => ?_⟩
  · rw [List.append_assoc, lexes_arrowHead, hlex false rest hr, Option.map_map]
    rfl
  · simp only [List.length_cons] at hd
    obtain ⟨depth, rfl⟩ : ∃ k, depth = k + 1 := Nat.exists_eq_add_of_le' (by omega)
    have hr := hread depth false tail (by omega) htail
    simp only [List.cons_append, expression, expressionOver, arrowHead?_empty,
      behindMark?_of_ne ht, hr, Option.bind_eq_bind, Option.bind_some, Option.pure_def]

theorem reads_wrapped (h : Reads cs (.mark '\x7b') n) :
    Reads ('(' :: (cs ++ [')'])) (.mark '(') n := by
  obtain ⟨ls, e, hlex, hread⟩ := h
  have hclose : ')' ∈ brackets := by decide
  refine reads_primary (⟨.mark '\x7b', false⟩ :: (ls ++ [⟨.mark ')', e⟩])) false
    (fun b rest _ => ?_) rfl (fun b tail _ => arrowHead?_brace b false _)
    (fun depth b tail hd => ?_)
  · rw [List.cons_append, List.append_assoc, List.singleton_append,
      lexemes_bracket b (by decide), hlex false _ (isSeparate_bracket hclose rest),
      lexemes_bracket e hclose, Option.map_map, Option.map_map]
    simp only [Function.comp_def, List.cons_append, List.append_assoc, List.nil_append]
  · simp only [List.length_cons, List.length_append] at hd
    have hr := hread depth false (⟨.mark ')', e⟩ :: tail) (by omega) (.mark rfl)
    simp only [List.cons_append, List.append_assoc, List.nil_append, primary, hr,
      Option.bind_eq_bind, Option.bind_some, behindMark?_mark, Option.pure_def]

end Componentry.Script
