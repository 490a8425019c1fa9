import Componentry.Proofs.Script.Lexeme
import Componentry.Script.Printer
import Mathlib.Tactic.IntervalCases

/-!
# Lexemes of printed text

White space, marks, names, numerals and quoted texts each have the lexemes that they look like,
whatever stands behind them. Names and numerals are the exception: what stands behind them must not
go on with them. `isSeparate` says so of a text.
-/

namespace Componentry.Script

/-- Marks are told from everything else by their first character. -/
theorem mark_separates {c : Char} (h : c ∈ marks) :
    endsLine c = false ∧ isSpace c = false ∧ beginsName c = false ∧ c.isDigit = false ∧
      (c = '"' || c = '\'') = false := by
  simp only [marks, List.mem_cons, List.not_mem_nil, or_false] at h
  rcases h with rfl | rfl | rfl | rfl | rfl | rfl | rfl | rfl | rfl | rfl | rfl | rfl | rfl | rfl |
    rfl <;> decide

theorem lexemes_mark (b : Bool) {c : Char} {cs : List Char} (h : c ∈ marks)
    (hn : cs.head?.any (goesOn c) = false) :
    lexemes b (c :: cs) = (lexemes false cs).map (⟨.mark c, b⟩ :: ·) := by
  obtain ⟨hl, hs, hb, hd, hq⟩ := mark_separates h
  apply lexemes_token b hl hs
  have harrow : (c = '=' && cs.head? = some '>') = false := by
    rw [Bool.and_eq_false_iff]
    by_cases hc : c = '='
    · subst hc
      refine Or.inr (decide_eq_false fun hcs => ?_)
      rw [hcs] at hn
      cases hn
    · exact Or.inl (decide_eq_false hc)
  simp only [token?, mark?, hb, hd, hq, harrow, hn, Bool.false_eq_true, if_false,
    List.contains_iff_mem.mpr h, if_true]

theorem lexemes_arrow (b : Bool) (cs : List Char) :
    lexemes b ('=' :: '>' :: cs) = (lexemes false cs).map (⟨.arrow, b⟩ :: ·) :=
  lexemes_token b rfl rfl rfl

def IsBlank (cs : List Char) : Prop := ∀ c ∈ cs, endsLine c = true ∨ isSpace c = true

theorem lexemes_blank {ws : List Char} (h : IsBlank ws) (b : Bool) (cs : List Char) :
    lexemes b (ws ++ cs) = lexemes (b || ws.any endsLine) cs := by
  induction ws generalizing b with
  | nil => simp
  | cons c ws ih =>
    have hws : IsBlank ws := fun d hd => h d (List.mem_cons_of_mem c hd)
    rw [List.cons_append, List.any_cons]
    cases hl : endsLine c with
    | true => rw [lexemes_lineEnd b hl, ih hws]; simp
    | false =>
      have hs : isSpace c = true := (h c List.mem_cons_self).resolve_left (by simp [hl])
      rw [lexemes_space b hl hs, ih hws, Bool.false_or]

/-- Whether a text goes on neither with a name nor with a numeral. -/
def isSeparate (cs : List Char) : Bool := cs.head?.all fun c => !continuesName c && c != '.'

theorem takeWhile_append_of_separate {p : Char → Bool} {cs rest : List Char}
    (h : ∀ c ∈ cs, p c = true) (hr : rest.head?.all (fun c => !p c) = true) :
    (cs ++ rest).takeWhile p = cs ∧ (cs ++ rest).dropWhile p = rest := by
  have hrest : rest.takeWhile p = [] ∧ rest.dropWhile p = rest := by
    cases rest with
    | nil => exact ⟨rfl, rfl⟩
    | cons c rest =>
      have hc : p c = false := by simpa using hr
      exact ⟨List.takeWhile_cons_of_neg (by simp [hc]), List.dropWhile_cons_of_neg (by simp [hc])⟩
  rw [List.takeWhile_append_of_pos h, List.dropWhile_append_of_pos h, hrest.1, hrest.2,
    List.append_nil]
  exact ⟨rfl, rfl⟩

theorem isDigit_iff {c : Char} : c.isDigit = true ↔ 48 ≤ c.toNat ∧ c.toNat ≤ 57 := by
  simp only [Char.isDigit, Bool.and_eq_true, decide_eq_true_eq, UInt32.le_iff_toNat_le]
  rfl

theorem isAlpha_iff {c : Char} :
    c.isAlpha = true ↔ 65 ≤ c.toNat ∧ c.toNat ≤ 90 ∨ 97 ≤ c.toNat ∧ c.toNat ≤ 122 := by
  have halpha : c.isAlpha =
      (decide (65 ≤ c.val ∧ c.val ≤ 90) || decide (97 ≤ c.val) && decide (c.val ≤ 122)) := rfl
  simp only [halpha, Bool.or_eq_true, Bool.and_eq_true, decide_eq_true_eq, UInt32.le_iff_toNat_le]
  rfl

/-- The characters of names lie between the white space of ASCII and that beyond it. -/
theorem toNat_of_continuesName {c : Char} (h : continuesName c = true) :
    33 ≤ c.toNat ∧ c.toNat < 127 := by
  simp only [continuesName, beginsName, Bool.or_eq_true, decide_eq_true_eq, isAlpha_iff,
    isDigit_iff] at h
  rcases h with (((h | h) | rfl) | rfl) | h
  · omega
  · omega
  · decide
  · decide
  · omega

theorem not_white_of_toNat {c : Char} (h : 33 ≤ c.toNat ∧ c.toNat < 127) :
    endsLine c = false ∧ isSpace c = false := by
  constructor
  · simp only [endsLine, Bool.or_eq_false_iff, decide_eq_false_iff_not]
    refine ⟨⟨⟨?_, ?_⟩, ?_⟩, ?_⟩ <;> rintro rfl <;> revert h <;> decide
  · have hs : ∀ n ∈ spaces, n < 33 ∨ 127 ≤ n := by decide
    rw [isSpace, ← Bool.not_eq_true, List.contains_iff_mem]
    intro hc
    have := hs _ hc
    omega

theorem beginsName_of_isDigit {c : Char} (h : c.isDigit = true) : beginsName c = false := by
  rw [← Bool.not_eq_true]
  simp only [beginsName, Bool.or_eq_true, decide_eq_true_eq, isAlpha_iff]
  rw [isDigit_iff] at h
  rintro ((ha | rfl) | rfl)
  · omega
  · revert h
    decide
  · revert h
    decide

theorem lexemes_word (b : Bool) {name rest : List Char} (hb : name.head?.any beginsName = true)
    (hc : ∀ c ∈ name, continuesName c = true)
    (hr : rest.head?.all (fun c => !continuesName c) = true) :
    lexemes b (name ++ rest) =
      (lexemes false rest).map (⟨.word (String.ofList name), b⟩ :: ·) := by
  cases name with
  | nil => cases hb
  | cons c cs =>
    obtain ⟨hl, hs⟩ := not_white_of_toNat (toNat_of_continuesName (hc c List.mem_cons_self))
    obtain ⟨ht, hd⟩ := takeWhile_append_of_separate hc hr
    rw [List.cons_append] at ht hd ⊢
    apply lexemes_token b hl hs
    have hbc : beginsName c = true := hb
    simp only [token?, hbc, if_true, ht, hd]

theorem head_toDigits_ne_zero {n : Nat} (h : 0 < n) : (Nat.toDigits 10 n).head? ≠ some '0' := by
  induction n using Nat.strongRecOn with
  | ind n ih =>
    by_cases hn : n < 10
    · rw [Nat.toDigits_of_lt_base hn]
      interval_cases n <;> decide
    · rw [Nat.toDigits_of_base_le (by omega) (by omega), List.head?_append]
      have hd := ih (n / 10) (by omega) (by omega)
      cases hh : (Nat.toDigits 10 (n / 10)).head? with
      | none => exact absurd (List.head?_eq_none_iff.mp hh) Nat.toDigits_ne_nil
      | some c => simpa [hh] using hd

theorem isDigit_of_mem_digits {n : Nat} {c : Char} (h : c ∈ Text.digits n) : c.isDigit = true :=
  Nat.isDigit_of_mem_toDigits (by omega) (by omega) h

theorem digits_ne_nil (n : Nat) : Text.digits n ≠ [] := Nat.toDigits_ne_nil

theorem isSeparate_cons {c : Char} {cs : List Char} (h : isSeparate (c :: cs) = true) :
    beginsName c = false ∧ c.isDigit = false ∧ c ≠ '.' := by
  simp only [isSeparate, List.head?_cons, Option.all_some, continuesName, Bool.and_eq_true,
    Bool.not_eq_true', Bool.or_eq_false_iff, bne_iff_ne] at h
  exact ⟨h.1.1, h.1.2, h.2⟩

/-- A numeral has no zero in front and nothing behind it that goes on with it. -/
theorem numeral?_digits (n : Nat) {rest : List Char} (hr : isSeparate rest = true) :
    numeral? (Text.digits n ++ rest) = some (n, rest) := by
  have hrest : rest.head?.all (fun c => !c.isDigit) = true := by
    cases rest with
    | nil => rfl
    | cons c rest => simp [(isSeparate_cons hr).2.1]
  have hbehind : (rest.head?.any fun c => beginsName c || c = '.') = false := by
    cases rest with
    | nil => rfl
    | cons c rest => simp [(isSeparate_cons hr).1, (isSeparate_cons hr).2.2]
  have hzero : ((Text.digits n).head? = some '0' && (Text.digits n).length ≠ 1) = false := by
    rcases Nat.eq_zero_or_pos n with rfl | hn
    · rfl
    · rw [Bool.and_eq_false_iff]
      exact Or.inl (decide_eq_false (head_toDigits_ne_zero hn))
  have hdigit : ∀ c ∈ Text.digits n, c.isDigit = true := fun _ => isDigit_of_mem_digits
  obtain ⟨ht, hd⟩ := takeWhile_append_of_separate hdigit hrest
  simp only [numeral?, ht, hd, hzero, hbehind, Bool.false_eq_true, if_false]
  rw [decimalValue, Text.digits, Nat.ofDigitChars_ten_toDigits]

theorem lexemes_natural (b : Bool) (n : Nat) {rest : List Char} (hr : isSeparate rest = true) :
    lexemes b (Text.digits n ++ rest) = (lexemes false rest).map (⟨.number n, b⟩ :: ·) := by
  have hnum := numeral?_digits n hr
  cases hds : Text.digits n with
  | nil => exact absurd hds (digits_ne_nil n)
  | cons c cs =>
    have hc : c.isDigit = true := isDigit_of_mem_digits (hds ▸ List.mem_cons_self)
    have hname : continuesName c = true := by rw [continuesName, hc, Bool.or_true]
    obtain ⟨hl, hs⟩ := not_white_of_toNat (toNat_of_continuesName hname)
    rw [hds, List.cons_append] at hnum
    rw [List.cons_append]
    apply lexemes_token b hl hs
    simp only [token?, beginsName_of_isDigit hc, hc, hnum, Bool.false_eq_true, if_false, if_true,
      Option.map_some]

theorem hexDigit?_hexDigit (n : Nat) : Text.hexDigit? (Text.hexDigit n) = some (n % 16) := by
  have h : n % 16 < 16 := Nat.mod_lt n (by omega)
  rw [Text.hexDigit]
  generalize n % 16 = d at h
  interval_cases d <;> decide

theorem hexValue?_hex {n : Nat} (h : n < 0x10000) : hexValue? (Text.hex 4 n) = some n := by
  simp only [hexValue?, Text.hex, Nat.pow_eq, List.foldlM_cons, List.foldlM_nil, hexDigit?_hexDigit,
    Option.map_some, Option.bind_eq_bind, Option.bind_some, Option.pure_def, Option.some.injEq]
  omega

theorem escape?_numbered {c : Char} (h : c.toNat < 0x10000) (rest : List Char) :
    escape? ('u' :: (Text.hex 4 c.toNat ++ rest)) = some ([c], 5) := by
  have hlen : (Text.hex 4 c.toNat).length = 4 := rfl
  have hnot : ¬ (Text.hex 4 c.toNat ++ rest).length < 4 := by
    rw [List.length_append, hlen]
    omega
  have hvalid : c.toNat.isValidChar := c.valid
  simp only [escape?, numberedChar?, if_neg hnot, List.take_left' hlen, hexValue?_hex h,
    Option.bind_some, if_pos hvalid, Char.ofNat_toNat, Option.map_some]

def IsQuote (c : Char) : Prop := c = '\'' ∨ c = '"'

theorem IsQuote.ne_backslash {c : Char} (h : IsQuote c) : c ≠ '\\' := by
  rcases h with rfl | rfl <;> decide

theorem literal?_ownEscape {quote : Char} (hq : quote ≠ '\\') {c : Char} {e : List Char}
    (h : ownEscape? c = some e) (rest : List Char) :
    literal? quote (e ++ rest) = (literal? quote rest).map fun r => (c :: r.1, r.2) := by
  unfold ownEscape? at h
  split at h <;> cases h
  · exact literal?_escape hq ('\\' :: rest) rfl
  · exact literal?_escape hq ('n' :: rest) rfl
  · exact literal?_escape hq ('r' :: rest) rfl
  · exact literal?_escape hq ('t' :: rest) rfl
  · exact literal?_escape hq ('b' :: rest) rfl
  · exact literal?_escape hq ('f' :: rest) rfl
  · exact literal?_escape hq _ (escape?_numbered (c := '\u2028') (by decide) rest)
  · exact literal?_escape hq _ (escape?_numbered (c := '\u2029') (by decide) rest)

theorem literal?_escaped {quote : Char} (hq : IsQuote quote) (c : Char) (rest : List Char) :
    literal? quote (escaped quote c ++ rest) =
      (literal? quote rest).map fun r => (c :: r.1, r.2) := by
  have hquote := hq.ne_backslash
  unfold escaped
  cases he : ownEscape? c with
  | some e => exact literal?_ownEscape hquote he rest
  | none =>
    dsimp only
    split_ifs with hc hlow
    · subst hc
      rcases hq with rfl | rfl
      · exact literal?_escape hquote ('\'' :: rest) rfl
      · exact literal?_escape hquote ('"' :: rest) rfl
    · exact literal?_escape hquote _ (escape?_numbered (by omega) rest)
    · refine literal?_plain hc ?_ ?_ ?_ rest <;> rintro rfl <;> cases he

theorem literal?_quoted {quote : Char} (hq : IsQuote quote) (cs rest : List Char) :
    literal? quote (cs.flatMap (escaped quote) ++ quote :: rest) = some (cs, rest) := by
  induction cs with
  | nil => rw [List.flatMap_nil, List.nil_append, literal?, if_pos rfl]
  | cons c cs ih =>
    rw [List.flatMap_cons, List.append_assoc, literal?_escaped hq, ih]
    rfl

theorem token?_quoted {quote : Char} (hq : IsQuote quote) (cs rest : List Char) :
    token? (quoted quote cs ++ rest) = some (.text (String.ofList cs), rest) := by
  have hl := literal?_quoted hq cs rest
  rw [quoted, List.cons_append, List.append_assoc, List.singleton_append]
  rcases hq with rfl | rfl
  · have hn : beginsName '\'' = false ∧ '\''.isDigit = false := by decide
    simp only [token?, hn.1, hn.2, hl, Bool.false_eq_true, if_false, decide_true, Bool.or_true,
      if_true, Option.map_some]
  · have hn : beginsName '"' = false ∧ '"'.isDigit = false := by decide
    simp only [token?, hn.1, hn.2, hl, Bool.false_eq_true, if_false, decide_true, Bool.true_or,
      if_true, Option.map_some]

theorem lexemes_quoted (b : Bool) {quote : Char} (hq : IsQuote quote) (cs rest : List Char) :
    lexemes b (quoted quote cs ++ rest) =
      (lexemes false rest).map (⟨.text (String.ofList cs), b⟩ :: ·) := by
  have ht := token?_quoted hq cs rest
  rcases hq with rfl | rfl <;> exact lexemes_token b rfl rfl ht

end Componentry.Script
