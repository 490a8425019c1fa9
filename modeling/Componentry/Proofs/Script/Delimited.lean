import Componentry.Proofs.Settings.Room
import Componentry.Proofs.Double.Characters

/-!
# Literals end where they seem to

A literal stays on its line, and the only quotes in it that no backslash escapes are the two at its
ends. So whatever stands behind it, a reader that begins at the first of them stops at the last, and
what it has read is the content of the literal.

`escaped_forms` says once what may stand for a character; everything else here, but that the content
is read, is derived from it.
-/

namespace Componentry

namespace Script

/-- A character of a line: neither a control character below the blank nor the end of a line. -/
def IsOnLine (c : Char) : Prop := 0x20 ≤ c.toNat ∧ endsLine c = false

instance (c : Char) : Decidable (IsOnLine c) :=
  inferInstanceAs (Decidable (0x20 ≤ c.toNat ∧ endsLine c = false))

theorem isOnLine_quote {quote : Char} (hq : IsQuote quote) : IsOnLine quote := by
  rcases hq with rfl | rfl <;> decide

/-- What may follow a backslash in a literal, apart from the quote of the literal. -/
def escapeSigns : List Char := ['\\', 'n', 'r', 't', 'b', 'f', 'u']

/-- A character is written as it is, or as a backslash and a sign behind it, which digits may
follow. -/
theorem escaped_forms (quote c : Char) :
    (escaped quote c = [c] ∧ c ≠ quote ∧ c ≠ '\\' ∧ IsOnLine c) ∨
      ∃ sign digits, escaped quote c = '\\' :: sign :: digits ∧ sign ∈ quote :: escapeSigns ∧
        ∀ d ∈ digits, isNumeralChar d = true := by
  unfold escaped
  cases he : ownEscape? c with
  | some e =>
    right
    unfold ownEscape? at he
    split at he <;> cases he <;>
      exact ⟨_, _, rfl, List.mem_cons_of_mem _ (by decide), List.all_eq_true.mp (by decide)⟩
  | none =>
    dsimp only
    split_ifs with hquote hlow
    · exact .inr ⟨c, [], rfl, hquote ▸ List.mem_cons_self, nofun⟩
    · exact .inr ⟨'u', _, rfl, List.mem_cons_of_mem _ (by decide),
        fun _ => isNumeralChar_of_mem_hex⟩
    · refine .inl ⟨rfl, hquote, ?_, Nat.le_of_not_lt hlow, ?_⟩
      · rintro rfl
        cases he
      · simp only [endsLine, Bool.or_eq_false_iff, decide_eq_false_iff_not]
        refine ⟨⟨⟨?_, ?_⟩, ?_⟩, ?_⟩ <;> rintro rfl <;> cases he

theorem isOnLine_of_mem_escaped {quote c d : Char} (hq : IsQuote quote)
    (h : d ∈ escaped quote c) : IsOnLine d := by
  rcases escaped_forms quote c with ⟨heq, -, -, hc⟩ | ⟨sign, digits, heq, hsign, hdigits⟩
  · rw [heq, List.mem_singleton] at h
    exact h ▸ hc
  · rw [heq, List.mem_cons, List.mem_cons] at h
    rcases h with rfl | rfl | h
    · decide
    · rcases List.mem_cons.mp hsign with rfl | hsign
      · exact isOnLine_quote hq
      · have hsigns : escapeSigns.all (decide <| IsOnLine ·) = true := by decide
        exact of_decide_eq_true (List.all_eq_true.mp hsigns d hsign)
    · have hd := toNat_of_isNumeralChar (hdigits d h)
      exact ⟨by omega, (not_white_of_toNat hd).1⟩

theorem isOnLine_of_mem_quoted {quote d : Char} (hq : IsQuote quote) {cs : List Char}
    (h : d ∈ quoted quote cs) : IsOnLine d := by
  rw [quoted, List.mem_cons, List.mem_append, List.mem_flatMap, List.mem_singleton] at h
  rcases h with rfl | ⟨c, -, hd⟩ | rfl
  · exact isOnLine_quote hq
  · exact isOnLine_of_mem_escaped hq hd
  · exact isOnLine_quote hq

/-- Whether a text ends in an odd number of backslashes, so that the last one escapes the character
behind the text. -/
def escapesNext (front : List Char) : Bool := (front.reverse.takeWhile (· = '\\')).length % 2 = 1

theorem escapesNext_concat (front : List Char) (c : Char) :
    escapesNext (front ++ [c]) = (c = '\\' && !escapesNext front) := by
  unfold escapesNext
  rw [List.reverse_append, List.reverse_singleton, List.singleton_append, List.takeWhile_cons]
  by_cases hc : c = '\\'
  · simp only [hc, decide_true, if_true, List.length_cons, Bool.true_and, ← decide_not,
      decide_eq_decide]
    omega
  · simp [hc]

theorem escapesNext_plain (front : List Char) {c : Char} (hc : c ≠ '\\') :
    escapesNext (front ++ [c]) = false := by
  rw [escapesNext_concat, decide_eq_false hc, Bool.false_and]

theorem escapesNext_backslash {front : List Char} (h : escapesNext front = false) :
    escapesNext (front ++ ['\\']) = true := by
  rw [escapesNext_concat, h]
  rfl

theorem escapesNext_pair {front : List Char} (h : escapesNext front = false) (c : Char) :
    escapesNext (front ++ ['\\'] ++ [c]) = false := by
  rw [escapesNext_concat, escapesNext_backslash h, Bool.not_true, Bool.and_false]

/-- Texts in which every backslash takes the character behind it along, and no quote stands that is
not taken along. -/
inductive Shielded (quote : Char) : List Char → Prop
  | nil : Shielded quote []
  | plain {c : Char} {cs : List Char} (hquote : c ≠ quote) (hbackslash : c ≠ '\\')
    (h : Shielded quote cs) : Shielded quote (c :: cs)
  | pair (c : Char) {cs : List Char} (h : Shielded quote cs) : Shielded quote ('\\' :: c :: cs)

namespace Shielded

variable {quote : Char} {cs ds : List Char}

theorem append (hcs : Shielded quote cs) (hds : Shielded quote ds) : Shielded quote (cs ++ ds) := by
  induction hcs with
  | nil => exact hds
  | plain hquote hbackslash _ ih => exact .plain hquote hbackslash ih
  | pair c _ ih => exact .pair c ih

theorem of_isNumeralChar (hq : IsQuote quote) (h : ∀ c ∈ cs, isNumeralChar c = true) :
    Shielded quote cs := by
  induction cs with
  | nil => exact .nil
  | cons c cs ih =>
    have hc := h c List.mem_cons_self
    refine .plain ?_ ?_ (ih fun d hd => h d (List.mem_cons_of_mem c hd))
    · rintro rfl
      rcases hq with rfl | rfl <;> revert hc <;> decide
    · rintro rfl
      revert hc
      decide

theorem escaped (hq : IsQuote quote) (c : Char) : Shielded quote (escaped quote c) := by
  rcases escaped_forms quote c with ⟨heq, hquote, hbackslash, -⟩ | ⟨sign, digits, heq, -, hdigits⟩
  · rw [heq]
    exact .plain hquote hbackslash .nil
  · rw [heq]
    exact .pair sign (.of_isNumeralChar hq hdigits)

theorem content (hq : IsQuote quote) (cs : List Char) :
    Shielded quote (cs.flatMap (Script.escaped quote)) := by
  induction cs with
  | nil => exact .nil
  | cons c cs ih =>
    rw [List.flatMap_cons]
    exact (escaped hq c).append ih

/-- Behind a shielded text nothing is escaped that is not escaped without it. -/
theorem escapesNext_append (h : Shielded quote cs) {front : List Char}
    (hfront : escapesNext front = false) : escapesNext (front ++ cs) = false := by
  induction h generalizing front with
  | nil => rwa [List.append_nil]
  | @plain c cs _ hbackslash _ ih =>
    rw [List.append_cons]
    exact ih (escapesNext_plain front hbackslash)
  | @pair c cs _ ih =>
    rw [List.append_cons, List.append_cons]
    exact ih (escapesNext_pair hfront c)

/-- Every quote within a shielded text is escaped. -/
theorem escapesNext_quote (h : Shielded quote cs) (hq : quote ≠ '\\')
    {front within rest : List Char} (hfront : escapesNext front = false)
    (hcs : cs = within ++ quote :: rest) : escapesNext (front ++ within) = true := by
  induction h generalizing front within with
  | nil => simp at hcs
  | @plain c cs hquote hbackslash _ ih =>
    cases within with
    | nil => exact absurd (List.cons.inj hcs).1 hquote
    | cons d within =>
      obtain ⟨rfl, hrest⟩ := List.cons.inj hcs
      rw [List.append_cons]
      exact ih (escapesNext_plain front hbackslash) hrest
  | @pair c cs _ ih =>
    rcases within with _ | ⟨d, _ | ⟨e, within⟩⟩
    · exact absurd (List.cons.inj hcs).1.symm hq
    · obtain ⟨rfl, -⟩ := List.cons.inj hcs
      exact escapesNext_backslash hfront
    · obtain ⟨rfl, hpair⟩ := List.cons.inj hcs
      obtain ⟨rfl, hrest⟩ := List.cons.inj hpair
      rw [List.append_cons, List.append_cons]
      exact ih (escapesNext_pair hfront _) hrest

/-- Between two quotes a shielded text leaves just those two bare. -/
theorem bare_iff (h : Shielded quote cs) (hq : quote ≠ '\\') (i : Nat) :
    (quote :: (cs ++ [quote]))[i]? = some quote ∧
        escapesNext ((quote :: (cs ++ [quote])).take i) = false ↔
      i = 0 ∨ i + 1 = (quote :: (cs ++ [quote])).length := by
  have hopening : escapesNext [quote] = false := escapesNext_plain [] hq
  have hlength : (quote :: (cs ++ [quote])).length = cs.length + 2 := by simp
  rw [hlength]
  cases i with
  | zero => exact iff_of_true ⟨rfl, rfl⟩ (.inl rfl)
  | succ i =>
    rw [List.getElem?_cons_succ, List.take_succ_cons]
    rcases Nat.lt_trichotomy i cs.length with hi | rfl | hi
    · -- within the content
      rw [List.getElem?_append_left hi, List.take_append_of_le_length hi.le]
      refine iff_of_false (fun ⟨hget, hbare⟩ => ?_) (by omega)
      obtain ⟨hlt, hget⟩ := List.getElem?_eq_some_iff.mp hget
      have hsplit : cs = cs.take i ++ quote :: cs.drop (i + 1) := by
        rw [← hget, List.getElem_cons_drop, List.take_append_drop]
      have hescaped := h.escapesNext_quote hq hopening hsplit
      rw [List.singleton_append, hbare] at hescaped
      cases hescaped
    · -- the closing quote
      rw [List.getElem?_concat_length, List.take_left]
      exact iff_of_true ⟨rfl, h.escapesNext_append hopening⟩ (.inr rfl)
    · have hnone : (cs ++ [quote])[i]? = none :=
        List.getElem?_eq_none (by rw [List.length_append, List.length_singleton]; omega)
      rw [hnone]
      exact iff_of_false (fun hget => nomatch hget.1) (by omega)

end Shielded

/-- The place of the first quote that is not escaped, for a reader that goes from character to
character. `pending` tells that the first one is escaped by what stands before the text. -/
def firstBare? (quote : Char) (pending : Bool) : List Char → Option Nat
  | [] => none
  | c :: cs =>
    if c = quote && !pending then some 0
    else (firstBare? quote (c = '\\' && !pending) cs).map (· + 1)

/-- The place of the quote that closes the literal at the start of a text. -/
def closingPlace? : List Char → Option Nat
  | [] => none
  | quote :: cs => (firstBare? quote false cs).map (· + 1)

theorem Shielded.firstBare?_eq {quote : Char} {cs : List Char} (h : Shielded quote cs)
    (hq : quote ≠ '\\') (rest : List Char) :
    firstBare? quote false (cs ++ quote :: rest) = some cs.length := by
  induction h with
  | nil => simp [firstBare?]
  | plain hquote hbackslash _ ih => simp [firstBare?, hquote, hbackslash, ih]
  | pair c _ ih => simp [firstBare?, hq.symm, ih]

/-- What makes a text stand for a content wherever it is put. The lexeme that a text begins with
leaves what stands behind it, and so tells where it ends. -/
structure IsLiteral (quote : Char) (content : String) (literal : List Char) : Prop where
  onLine : ∀ c ∈ literal, IsOnLine c
  bare_iff : ∀ i, literal[i]? = some quote ∧ escapesNext (literal.take i) = false ↔
    i = 0 ∨ i + 1 = literal.length
  token?_eq : ∀ rest, token? (literal ++ rest) = some (.text content, rest)
  closingPlace?_eq : ∀ rest, closingPlace? (literal ++ rest) = some (literal.length - 1)

theorem isLiteral_quoted {quote : Char} (hq : IsQuote quote) (s : String) :
    IsLiteral quote s (quoted quote s.toList) := by
  have hcontent := Shielded.content hq s.toList
  constructor
  case onLine => exact fun _ => isOnLine_of_mem_quoted hq
  case bare_iff => exact hcontent.bare_iff hq.ne_backslash
  case token?_eq =>
    intro rest
    rw [token?_quoted hq, String.ofList_toList]
  case closingPlace?_eq =>
    intro rest
    rw [quoted, List.cons_append, List.append_assoc, List.singleton_append, closingPlace?,
      hcontent.firstBare?_eq hq.ne_backslash]
    simp

/-- A backslash in front of the closing quote does not escape it if it is escaped itself. -/
example : closingPlace? "'\\\\' + '\\''".toList = some 3 := by decide

end Script

/-- Under all settings every text has a literal: it stays on its line, its first and its last
character are its only bare quotes, it is read as that text, and it ends where it seems to, whatever
stands behind it. -/
theorem Settings.quotedValue_isLiteral (s : Settings) (text : String) :
    ∃ literal, Script.quotedValue s.quote (.str text) = .ok literal ∧
      Script.IsLiteral s.quote text literal.toList := by
  refine ⟨_, rfl, ?_⟩
  rw [String.toList_ofList]
  exact Script.isLiteral_quoted s.quote_style text

end Componentry
