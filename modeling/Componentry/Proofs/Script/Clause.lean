import Componentry.Proofs.Script.Construct

/-!
# Reading members and statements

The members of objects are read with their keys, and so are the statements of methods, which store
what they read at a name of the instance or call it by that name. Accesses by name and by literal
are read alike.
-/

namespace Componentry.Script

variable {cs : List Char} {t : Token} {ls tail : List Lexeme} {e : Bool} {n : Node}

/-- A piece of text behind an object that selects the member of a name. -/
def ReadsAccess (cs : List Char) (name : String) : Prop :=
  cs.head?.any (fun c => !continuesName c) = true ∧ ∃ t ls e, t ≠ .arrow ∧ Lexes cs t ls e ∧
    ∀ depth fuel object tail, suffixed (expression (depth + 1)) (fuel + 1) object
        (⟨t, false⟩ :: (ls ++ tail)) =
      suffixed (expression (depth + 1)) fuel
        (.memberExpression object (.identifier (.str name)) (.bool false)) tail

theorem reads_access_literal {quote : Char} (hq : IsQuote quote) (name : String) :
    ReadsAccess ('[' :: (quoted quote name.toList ++ [']'])) name := by
  refine ⟨rfl, .mark '[', [⟨.text name, false⟩, ⟨.mark ']', false⟩], false, nofun,
    fun b rest _ => ?_, fun depth fuel object tail => ?_⟩
  · rw [List.cons_append, List.append_assoc, List.singleton_append, lexemes_bracket b (by decide),
      lexemes_quoted false hq, lexemes_bracket false (by decide), Option.map_map, Option.map_map,
      String.ofList_toList]
    rfl
  · have htext : expression (depth + 1) (⟨.text name, false⟩ :: ⟨.mark ']', false⟩ :: tail) =
        some (.stringLiteral (.str name), ⟨.mark ']', false⟩ :: tail) := by
      have hstop : Stops Lexeme.endsExpression (⟨.mark ']', false⟩ :: tail) := .mark rfl
      refine expressionOver_operand (arrowHead?_of_token (by simp) (by simp) false _) ?_ hstop
      rw [operand_primary rfl false (n := .stringLiteral (.str name)) rfl, suffixed_stop hstop]
    simp only [List.cons_append, List.nil_append, suffixed, htext, Option.bind_eq_bind,
      Option.bind_some, behindMark?_mark, selected]

/-- A point goes on with digits and points, but not with a name. -/
theorem not_goesOn_point {name : List Char} (hb : name.head?.any beginsName = true)
    (rest : List Char) : (name ++ rest).head?.any (goesOn '.') = false := by
  cases name with
  | nil => cases hb
  | cons c name =>
    have hbegin : beginsName c = true := hb
    rw [List.cons_append, List.head?_cons, Option.any_some, ← Bool.not_eq_true]
    simp only [goesOn, Bool.or_eq_true, decide_eq_true_eq]
    rintro (rfl | hd)
    · cases hbegin
    · rw [beginsName_of_isDigit hd] at hbegin
      cases hbegin

theorem reads_access_name {name : List Char} (hb : name.head?.any beginsName = true)
    (hc : ∀ c ∈ name, continuesName c = true) {ws : List Char} (hws : IsBlank ws) :
    ReadsAccess ('.' :: (name ++ ws)) (String.ofList name) := by
  refine ⟨rfl, .mark '.', [⟨.word (String.ofList name), false⟩], ws.any endsLine, nofun,
    fun b rest hr => ?_, fun depth fuel object tail => ?_⟩
  · rw [List.cons_append, List.append_assoc, lexemes_mark b (by decide) (not_goesOn_point hb _),
      lexes_word hb hc false _ (isSeparate_blank hws hr), lexemes_blank hws, Option.map_map,
      Bool.false_or]
    rfl
  · simp only [List.cons_append, List.nil_append, suffixed]

def thisText : List Char := ['t', 'h', 'i', 's']

theorem lexemes_this (b : Bool) {cs : List Char}
    (h : cs.head?.any (fun c => !continuesName c) = true) (rest : List Char) :
    lexemes b (thisText ++ (cs ++ rest)) =
      (lexemes false (cs ++ rest)).map (⟨.word "this", b⟩ :: ·) := by
  cases cs with
  | nil => cases h
  | cons c cs => exact lexemes_word b rfl (List.all_eq_true.mp (by decide)) h

theorem arrowHead?_this (ht : t ≠ .arrow) (b : Bool) (ls : List Lexeme) :
    arrowHead? (⟨.word "this", b⟩ :: ⟨t, false⟩ :: ls) = none :=
  arrowHead?_word _ b fun l hl => by cases hl; exact ht

theorem operand_this {name : String}
    (h : ∀ depth fuel object tail, suffixed (expression (depth + 1)) (fuel + 1) object
        (⟨t, false⟩ :: (ls ++ tail)) =
      suffixed (expression (depth + 1)) fuel
        (.memberExpression object (.identifier (.str name)) (.bool false)) tail)
    (depth : Nat) (b : Bool) (tail : List Lexeme) :
    operand (expression (depth + 1)) (⟨.word "this", b⟩ :: ⟨t, false⟩ :: (ls ++ tail)) =
      suffixed (expression (depth + 1)) (ls.length + tail.length + 1)
        (.thisMember (.str name)) tail := by
  rw [operand_primary rfl b (n := .thisExpression) rfl, List.length_cons, List.length_append, h]
  rfl

theorem reads_negation {name : String} (h : ReadsAccess cs name) :
    Reads ('!' :: (thisText ++ cs)) (.mark '!')
      (.unaryExpression (.str "!") (.thisMember (.str name))) := by
  obtain ⟨hsep, t, ls, e, ht, hlex, hread⟩ := h
  refine ⟨⟨.word "this", false⟩ :: ⟨t, false⟩ :: ls, e, fun b rest hr => ?_,
    fun depth b tail hd htail => ?_⟩
  · rw [List.cons_append, List.append_assoc, lexemes_mark b (by decide) rfl,
      lexemes_this false hsep, hlex false rest hr, Option.map_map, Option.map_map]
    rfl
  · simp only [List.length_cons] at hd
    obtain ⟨depth, rfl⟩ : ∃ k, depth = k + 2 := Nat.exists_eq_add_of_le' (by omega)
    refine expressionOver_operand (arrowHead?_of_token (by simp) (by simp) b _) ?_ htail
    have hfield := operand_this hread depth false tail
    rw [suffixed_stop htail] at hfield
    simp only [List.cons_append, operand, operator?, hfield, Option.bind_eq_bind, Option.bind_some,
      applied, Node.thisMember, Option.pure_def]

theorem reads_assignment {name : String} (h : ReadsAccess cs name) {ds : List Char} {u : Token}
    (hright : Reads ds u n) :
    Reads (thisText ++ (cs ++ (' ' :: '=' :: ' ' :: ds))) (.word "this")
      (.assignmentExpression (.str "=") (.thisMember (.str name)) n) := by
  obtain ⟨hsep, t, ls, e, ht, hlex, hread⟩ := h
  obtain ⟨ls', e', hlex', hread'⟩ := hright
  refine ⟨⟨t, false⟩ :: (ls ++ (⟨.mark '=', e⟩ :: ⟨u, false⟩ :: ls')), e', fun b rest hr => ?_,
    fun depth b tail hd htail => ?_⟩
  · simp only [List.append_assoc, List.cons_append]
    rw [lexemes_this b hsep, hlex false _ rfl, lexemes_space e rfl rfl,
      lexemes_mark e (by decide) rfl, lexemes_space false rfl rfl, hlex' false rest hr,
      Option.map_map, Option.map_map, Option.map_map]
    rfl
  · simp only [List.length_cons, List.length_append] at hd
    obtain ⟨depth, rfl⟩ : ∃ k, depth = k + 2 := Nat.exists_eq_add_of_le' (by omega)
    have hr := hread' (depth + 1) false tail (by omega) htail
    have hfield := operand_this hread depth b
      (⟨.mark '=', e⟩ :: ⟨u, false⟩ :: (ls' ++ tail))
    -- the equals sign ends the operand
    have htarget : suffixed (expression (depth + 1))
        (ls.length + (⟨.mark '=', e⟩ :: ⟨u, false⟩ :: (ls' ++ tail)).length + 1)
        (.thisMember (.str name)) (⟨.mark '=', e⟩ :: ⟨u, false⟩ :: (ls' ++ tail)) =
        some (.thisMember (.str name), ⟨.mark '=', e⟩ :: ⟨u, false⟩ :: (ls' ++ tail)) := rfl
    rw [htarget] at hfield
    simp only [List.cons_append, List.append_assoc]
    exact expressionOver_assignment (arrowHead?_this ht b _) hfield rfl hr

theorem reads_call {name : String} (h : ReadsAccess cs name) {ds : List Char} {ns : List Node}
    (hargs : ReadsArguments ('(' :: ds) ns) :
    Reads (thisText ++ (cs ++ '(' :: ds)) (.word "this")
      (.callExpression (.thisMember (.str name)) ns) := by
  obtain ⟨hsep, t, ls, e, ht, hlex, hread⟩ := h
  obtain ⟨ls', hlex', hread'⟩ := hargs
  refine ⟨⟨t, false⟩ :: (ls ++ (⟨.mark '(', e⟩ :: ls')), false, fun b rest hr => ?_,
    fun depth b tail hd htail => ?_⟩
  · have hopen : isSeparate ('(' :: ds ++ rest) = true := isSeparate_bracket (by decide) _
    rw [List.append_assoc, List.append_assoc, lexemes_this b hsep, hlex false _ hopen,
      hlex' e rest hr, Option.map_map, Option.map_map]
    simp only [Function.comp_def, List.cons_append, List.append_assoc]
  · simp only [List.length_cons, List.length_append] at hd
    obtain ⟨depth, rfl⟩ : ∃ k, depth = k + 2 := Nat.exists_eq_add_of_le' (by omega)
    have hr := hread' (depth + 1) ((ls' ++ tail).length + 1) tail (by omega)
      (by rw [List.length_append]; omega)
    have hcall : suffixed (expression (depth + 1))
        (ls.length + (⟨.mark '(', e⟩ :: (ls' ++ tail)).length + 1)
        (.thisMember (.str name)) (⟨.mark '(', e⟩ :: (ls' ++ tail)) =
        some (.callExpression (.thisMember (.str name)) ns, tail) := by
      simp only [List.length_cons, suffixed, hr, Option.bind_eq_bind, Option.bind_some]
      exact suffixed_stop htail _ _ _
    have hfield := operand_this hread depth b (⟨.mark '(', e⟩ :: (ls' ++ tail))
    rw [hcall] at hfield
    simp only [List.cons_append, List.append_assoc]
    exact expressionOver_operand (arrowHead?_this ht b _) hfield htail

def ReadsKey (cs : List Char) (t : Token) (k : Node) : Prop :=
  ∃ e, Lexes cs t [] e ∧ ∀ b tail, key (⟨t, b⟩ :: tail) = some (k, tail)

theorem reads_key_literal {quote : Char} (hq : IsQuote quote) (name : String) :
    ReadsKey (quoted quote name.toList) (.text name) (.stringLiteral (.str name)) := by
  refine ⟨false, fun b rest _ => ?_, fun b tail => rfl⟩
  rw [lexemes_quoted b hq, String.ofList_toList]
  rfl

theorem reads_key_name {name : List Char} (hb : name.head?.any beginsName = true)
    (hc : ∀ c ∈ name, continuesName c = true) {ws : List Char} (hws : IsBlank ws) :
    ReadsKey (name ++ ws) (.word (String.ofList name))
      (.identifier (.str (String.ofList name))) := by
  refine ⟨ws.any endsLine, fun b rest hr => ?_, fun b tail => rfl⟩
  rw [List.append_assoc, lexes_word hb hc b _ (isSeparate_blank hws hr), lexemes_blank hws,
    Bool.false_or]

theorem Stops.expression {tail : List Lexeme} (h : Stops Lexeme.endsMember tail) :
    Stops Lexeme.endsExpression tail := by
  intro l hl
  rcases h l hl with hm | hm <;> rw [Lexeme.endsExpression, hm] <;> rfl

theorem reads_property {k : Node} (hkey : ReadsKey cs t k) {ds : List Char} {u : Token}
    (hvalue : Reads ds u n) :
    ReadsMember (cs ++ (':' :: ' ' :: ds)) t (.objectProperty k n (.bool false)) := by
  obtain ⟨e, hlex, hkey⟩ := hkey
  obtain ⟨ls, e', hlex', hread⟩ := hvalue
  refine ⟨⟨.mark ':', e⟩ :: ⟨u, false⟩ :: ls, e', fun b rest hr => ?_,
    fun depth b tail hd htail => ?_⟩
  · have hcolon : ':' ∈ brackets := by decide
    simp only [List.append_assoc, List.cons_append]
    rw [hlex b _ (isSeparate_bracket hcolon _), lexemes_bracket e hcolon,
      lexemes_space false rfl rfl, hlex' false rest hr, Option.map_map, Option.map_map]
    rfl
  · simp only [List.length_cons] at hd
    have hr := hread depth false tail (by omega) htail.expression
    simp only [List.cons_append, member, hkey, Option.bind_eq_bind, Option.bind_some,
      behindMark?_mark, hr, Option.pure_def]

/-- A name that no value and no parameters follow is read as a binding. -/
theorem member_binding {expr : Reader Node} {b : Bool} {tail : List Lexeme} {s : String}
    (hkey : key (⟨t, b⟩ :: tail) = some (.identifier (.str s), tail))
    (hs : keywords.contains s = false) (htail : Stops Lexeme.endsMember tail) :
    member expr (⟨t, b⟩ :: tail) =
      some (.objectProperty (.identifier (.str s)) (.identifier (.str s)) (.bool true), tail) := by
  have hparen := behindMark?_stop htail.expression (c := '(') rfl
  have hcolon : behindMark? ':' tail = none := by
    cases tail with
    | nil => rfl
    | cons l tail =>
      refine behindMark?_of_ne (fun hl => ?_) l.broken tail
      rcases htail l rfl with hm | hm <;> rw [hl] at hm <;> cases hm
  simp only [member, hkey, Option.bind_eq_bind, Option.bind_some, hparen, hcolon, hs,
    Bool.false_eq_true, if_false]

theorem reads_binding {s : String} (hkey : ReadsKey cs t (.identifier (.str s)))
    (hs : keywords.contains s = false) :
    ReadsMember cs t
      (.objectProperty (.identifier (.str s)) (.identifier (.str s)) (.bool true)) := by
  obtain ⟨e, hlex, hkey⟩ := hkey
  exact ⟨[], e, hlex, fun depth b tail hd htail => member_binding (hkey b tail) hs htail⟩

theorem reads_method {k : Node} (hkey : ReadsKey cs t k) {ds : List Char} {ns : List Node}
    (hbody : ReadsBody ds ns) :
    ReadsMember (cs ++ ('(' :: ')' :: ' ' :: ds)) t (.objectMethod k [] (.blockStatement ns)) := by
  obtain ⟨e, hlex, hkey⟩ := hkey
  obtain ⟨ls, hlex', hread⟩ := hbody
  have hopen : '(' ∈ brackets := by decide
  refine ⟨⟨.mark '(', e⟩ :: ⟨.mark ')', false⟩ :: ⟨.mark '\x7b', false⟩ :: ls, false,
    fun b rest hr => ?_, fun depth b tail hd htail => ?_⟩
  · simp only [List.append_assoc, List.cons_append]
    rw [hlex b _ (isSeparate_bracket hopen _), lexemes_bracket e hopen,
      lexemes_bracket false (by decide), lexemes_space false rfl rfl, hlex' false rest hr,
      Option.map_map, Option.map_map, Option.map_map]
    rfl
  · simp only [List.length_cons] at hd
    have hr := hread depth ((ls ++ tail).length + 1) tail (by omega)
      (by rw [List.length_append]; omega)
    have hcolon : behindMark? ':' (⟨.mark '(', e⟩ :: ⟨.mark ')', false⟩ ::
        ⟨.mark '\x7b', false⟩ :: (ls ++ tail)) = none := rfl
    simp only [List.cons_append, member, hkey, Option.bind_eq_bind, Option.bind_some, hcolon,
      behindMark?_mark, parameters, separated, body, hr, Option.pure_def]

theorem ReadsMember.ne_mark (h : ReadsMember cs t n) (c : Char) : t ≠ .mark c := by
  rintro rfl
  obtain ⟨ls, e, -, hread⟩ := h
  have := hread (ls.length + 1) false [] (Nat.lt_succ_self _) .nil
  cases this

/-- What may stand at the end of a statement: nothing or a semicolon. -/
def IsTerminator (cs : List Char) : Prop := cs = [] ∨ cs = [';']

theorem Stops.statement {tail : List Lexeme} (h : Stops Lexeme.endsStatement tail) :
    Stops Lexeme.endsExpression tail := by
  intro l hl
  rcases h l hl with hm | ⟨-, hm, -⟩
  · rw [Lexeme.endsExpression, hm]
    rfl
  · rw [Lexeme.endsExpression]
    cases ht : l.token with
    | mark c =>
      rw [ht] at hm
      have hmark : (Token.extends (.mark c) || c = ',' || c = '+' || c = '-') = false := hm
      simp only [Bool.or_eq_false_iff] at hmark
      exact hmark.1.1.1
    | arrow => rw [ht] at hm; cases hm
    | _ => rfl

theorem endOfStatement?_stop {tail : List Lexeme} (h : Stops Lexeme.endsStatement tail) :
    endOfStatement? tail = some tail := by
  cases tail with
  | nil => rfl
  | cons l tail =>
    rw [endOfStatement?]
    rcases h l rfl with hm | ⟨hb, hc, hs⟩
    · rw [hm]
      rfl
    · rw [if_neg hs, if_pos (Or.inr ⟨hb, hc⟩)]

/-- An expression at the end of a statement, with the semicolon that may stand behind it. -/
theorem Reads.terminated (h : Reads cs t n) {ds : List Char} (hds : IsTerminator ds) :
    ∃ ls e, Lexes (cs ++ ds) t ls e ∧ ∀ depth b tail, ls.length < depth →
      Stops Lexeme.endsStatement tail →
      ∃ rest, expression depth (⟨t, b⟩ :: (ls ++ tail)) = some (n, rest) ∧
        endOfStatement? rest = some tail := by
  obtain ⟨ls, e, hlex, hread⟩ := h
  rcases hds with rfl | rfl
  · refine ⟨ls, e, by rw [List.append_nil]; exact hlex, fun depth b tail hd htail => ?_⟩
    exact ⟨tail, hread depth b tail hd htail.statement, endOfStatement?_stop htail⟩
  · have hsemi : ';' ∈ brackets := by decide
    refine ⟨ls ++ [⟨.mark ';', e⟩], false, fun b rest _ => ?_, fun depth b tail hd _ => ?_⟩
    · rw [List.append_assoc, List.singleton_append, hlex b _ (isSeparate_bracket hsemi rest),
        lexemes_bracket e hsemi, Option.map_map]
      simp only [Function.comp_def, List.append_assoc, List.singleton_append]
    · rw [List.length_append, List.length_singleton] at hd
      rw [List.append_assoc, List.singleton_append]
      exact ⟨_, hread depth b _ (by omega) (.mark rfl), rfl⟩

theorem reads_expressionStatement (h : Reads cs t n) (hb : t ≠ .mark '\x7b')
    (hr : t ≠ .word "return") {ds : List Char} (hds : IsTerminator ds) :
    ReadsStatement (cs ++ ds) t (.expressionStatement n) := by
  obtain ⟨ls, e, hlex, hread⟩ := h.terminated hds
  refine ⟨ls, e, hlex, fun depth b tail hd htail => ?_⟩
  obtain ⟨rest, hexpr, hend⟩ := hread depth b tail hd htail
  simp only [statement, hb, hr, if_false, hexpr, hend, Option.bind_eq_bind, Option.bind_some,
    Option.pure_def]

theorem reads_return (h : Reads cs t n) {ds : List Char} (hds : IsTerminator ds) :
    ReadsStatement (['r', 'e', 't', 'u', 'r', 'n', ' '] ++ (cs ++ ds)) (.word "return")
      (.returnStatement (some n)) := by
  obtain ⟨ls, e, hlex, hread⟩ := h.terminated hds
  refine ⟨⟨t, false⟩ :: ls, e, fun b rest hr => ?_, fun depth b tail hd htail => ?_⟩
  · have hword : lexemes b (['r', 'e', 't', 'u', 'r', 'n'] ++ ' ' :: (cs ++ ds ++ rest)) = _ :=
      lexemes_word b rfl (List.all_eq_true.mp (by decide)) rfl
    simp only [List.cons_append, List.nil_append] at hword ⊢
    rw [hword, lexemes_space false rfl rfl, hlex false rest hr, Option.map_map]
    rfl
  · rw [List.length_cons] at hd
    obtain ⟨rest, hexpr, hend⟩ := hread depth false tail (by omega) htail
    have hgoes : (!false && t ≠ .mark ';' && t ≠ .mark '\x7d') = true := by
      simp only [h.ne_mark (c := ';') (by decide), h.ne_mark (c := '\x7d') (by decide), ne_eq,
        not_false_eq_true, decide_true, Bool.not_false, Bool.and_self]
    have hbrace : Token.word "return" ≠ .mark '\x7b' := nofun
    simp only [List.cons_append, statement, if_neg hbrace, if_true, List.head?_cons,
      Option.any_some, hgoes, hexpr, hend, Option.bind_eq_bind, Option.bind_some, Option.pure_def]

end Componentry.Script
