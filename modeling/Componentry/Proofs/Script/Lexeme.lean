import Componentry.Text.Character
import Mathlib.Tactic.SplitIfs

/-!
# Lexemes of the script

A text of the script is a sequence of lexemes with white space between them: names, string literals,
whole numbers, marks and arrows. A lexeme tells whether a line ends between it and the one before
it, since the grammar asks for that in a few places. What a script may hold beyond this, such as
comments, fractions, templates or longer operators, has no lexemes, so a text with any of it is
not read at all.
-/

namespace Componentry.Script

/-- What a lexeme is. Names of all kinds, reserved or not, are words. -/
inductive Token where
  | word (s : String)
  | text (s : String)
  | number (n : Nat)
  | mark (c : Char)
  | arrow
  deriving DecidableEq, Repr, Inhabited

/-- A token, and whether a line ends somewhere before it and behind the token before it. -/
structure Lexeme where
  token : Token
  broken : Bool
  deriving DecidableEq, Repr, Inhabited

def endsLine (c : Char) : Bool := c = '\n' || c = '\r' || c = '\u2028' || c = '\u2029'

def spaces : List Nat := [
  0x09, 0x0b, 0x0c, 0x20, 0xa0, 0x1680, 0x2000, 0x2001, 0x2002, 0x2003, 0x2004, 0x2005, 0x2006,
  0x2007, 0x2008, 0x2009, 0x200a, 0x202f, 0x205f, 0x3000, 0xfeff]

def isSpace (c : Char) : Bool := spaces.contains c.toNat

/-- Whether a character can begin a name; names beyond ASCII are left out. -/
def beginsName (c : Char) : Bool := c.isAlpha || c = '_' || c = '$'

def continuesName (c : Char) : Bool := beginsName c || c.isDigit

def hexValue? (ds : List Char) : Option Nat :=
  ds.foldlM (fun n d => (Text.hexDigit? d).map (16 * n + ·)) 0

/-- The character whose number is given by `width` hexadecimal digits at the start of a text. The
halves of a pair are no characters. -/
def numberedChar? (width : Nat) (cs : List Char) : Option Char :=
  if cs.length < width then none
  else (hexValue? (cs.take width)).bind fun n =>
    if n.isValidChar then some (Char.ofNat n) else none

/-- What an escape stands for, given the text behind its backslash, and how many characters of that
text belong to it. A line end behind a backslash stands for nothing. -/
def escape? : List Char → Option (List Char × Nat)
  | [] => none
  | c :: rest =>
    match c with
    | 'b' => some (['\x08'], 1)
    | 't' => some (['\t'], 1)
    | 'n' => some (['\n'], 1)
    | 'v' => some (['\x0b'], 1)
    | 'f' => some (['\x0c'], 1)
    | 'r' => some (['\r'], 1)
    | 'x' => (numberedChar? 2 rest).map fun d => ([d], 3)
    | 'u' => (numberedChar? 4 rest).map fun d => ([d], 5)
    | '0' => if rest.head?.any Char.isDigit then none else some (['\x00'], 1)
    | '\r' => some ([], if rest.head? = some '\n' then 2 else 1)
    | c => if endsLine c then some ([], 1) else if c.isDigit then none else some ([c], 1)

def literal? (quote : Char) (cs : List Char) : Option (List Char × List Char) :=
  match cs with
  | [] => none
  | c :: rest =>
    if c = quote then some ([], rest)
    else if c = '\\' then
      match escape? rest with
      | none => none
      | some (value, n) =>
        (literal? quote (rest.drop n)).map fun r => (value ++ r.1, r.2)
    else if c = '\n' || c = '\r' then none
    else (literal? quote rest).map fun r => (c :: r.1, r.2)
termination_by cs.length
decreasing_by all_goals simp only [List.length_drop, List.length_cons]; omega

theorem literal?_plain {quote c : Char} (hq : c ≠ quote) (hb : c ≠ '\\') (hn : c ≠ '\n')
    (hr : c ≠ '\r') (rest : List Char) :
    literal? quote (c :: rest) = (literal? quote rest).map fun r => (c :: r.1, r.2) := by
  rw [literal?]
  simp [hq, hb, hn, hr]

theorem literal?_escape {quote : Char} (hq : quote ≠ '\\') (cs : List Char) {value : List Char}
    {n : Nat} (h : escape? cs = some (value, n)) :
    literal? quote ('\\' :: cs) =
      (literal? quote (cs.drop n)).map fun r => (value ++ r.1, r.2) := by
  rw [literal?]
  simp only [hq.symm, if_false, if_true, h]

def decimalValue (ds : List Char) : Nat := Nat.ofDigitChars 10 ds 0

/-- The whole number at the start of a text, and the text behind it. It has no zeros in front, and
neither a name nor a point follows it. -/
def numeral? (cs : List Char) : Option (Nat × List Char) :=
  let ds := cs.takeWhile Char.isDigit
  let rest := cs.dropWhile Char.isDigit
  if ds.head? = some '0' && ds.length ≠ 1 then none
  else if rest.head?.any fun c => beginsName c || c = '.' then none
  else some (decimalValue ds, rest)

def marks : List Char :=
  ['(', ')', '\x7b', '\x7d', '[', ']', ',', ':', ';', '.', '=', '!', '-', '+', '~']

def goesOn (c next : Char) : Bool :=
  match c with
  | '=' => next = '=' || next = '>'
  | '!' => next = '='
  | '-' => next = '-' || next = '='
  | '+' => next = '+' || next = '='
  | '.' => next = '.' || next.isDigit
  | _ => false

/-- The mark that begins with a character, given the text behind that, and the text behind the mark.
Of the longer marks only the arrow is known. -/
def mark? (c : Char) (rest : List Char) : Option (Token × List Char) :=
  if c = '=' && rest.head? = some '>' then some (.arrow, rest.tail)
  else if rest.head?.any (goesOn c) then none
  else if marks.contains c then some (.mark c, rest)
  else none

def token? (cs : List Char) : Option (Token × List Char) :=
  match cs with
  | [] => none
  | c :: rest =>
    if beginsName c then
      some (.word (String.ofList (cs.takeWhile continuesName)), cs.dropWhile continuesName)
    else if c.isDigit then (numeral? cs).map fun r => (.number r.1, r.2)
    else if c = '"' || c = '\'' then
      (literal? c rest).map fun r => (.text (String.ofList r.1), r.2)
    else mark? c rest

theorem length_of_literal? {quote : Char} {cs value rest : List Char}
    (h : literal? quote cs = some (value, rest)) : rest.length ≤ cs.length := by
  fun_induction literal? quote cs generalizing value rest with
  | case1 => cases h
  | case2 rest' =>
    cases h
    rw [List.length_cons]
    omega
  | case3 => cases h
  | case4 rest' hq v n he ih =>
    obtain ⟨r, hr, hp⟩ := Option.map_eq_some_iff.mp h
    cases hp
    have hd := ih hr
    rw [List.length_drop] at hd
    rw [List.length_cons]
    omega
  | case5 => cases h
  | case6 c rest' hq hb hl ih =>
    obtain ⟨r, hr, hp⟩ := Option.map_eq_some_iff.mp h
    cases hp
    exact Nat.le_succ_of_le (ih hr)

theorem length_of_mark? {c : Char} {cs rest : List Char} {t : Token}
    (h : mark? c cs = some (t, rest)) : rest.length ≤ cs.length := by
  unfold mark? at h
  split_ifs at h <;> cases h
  · rw [List.length_tail]
    omega
  · exact Nat.le_refl _

theorem length_of_token? {cs rest : List Char} {t : Token} (h : token? cs = some (t, rest)) :
    rest.length < cs.length := by
  cases cs with
  | nil => cases h
  | cons c cs =>
    rw [List.length_cons, Nat.lt_succ_iff]
    simp only [token?] at h
    split_ifs at h with hb hd hq
    · cases h
      have hc : continuesName c = true := by rw [continuesName, hb, Bool.true_or]
      rw [List.dropWhile_cons_of_pos hc]
      exact (List.dropWhile_sublist _).length_le
    · obtain ⟨r, hr, hp⟩ := Option.map_eq_some_iff.mp h
      cases hp
      simp only [numeral?] at hr
      split_ifs at hr
      cases hr
      rw [List.dropWhile_cons_of_pos hd]
      exact (List.dropWhile_sublist _).length_le
    · obtain ⟨r, hr, hp⟩ := Option.map_eq_some_iff.mp h
      cases hp
      exact length_of_literal? hr
    · exact length_of_mark? h

/-- The lexemes of a text. `broken` tells that a line ends before the text. -/
def lexemes (broken : Bool) (cs : List Char) : Option (List Lexeme) :=
  match cs with
  | [] => some []
  | c :: rest =>
    if endsLine c then lexemes true rest
    else if isSpace c then lexemes broken rest
    else
      match _h : token? (c :: rest) with
      | none => none
      | some (t, behind) => (lexemes false behind).map (⟨t, broken⟩ :: ·)
termination_by cs.length
decreasing_by
  · exact Nat.lt_succ_self _
  · exact Nat.lt_succ_self _
  · exact length_of_token? _h

@[simp] theorem lexemes_nil (b : Bool) : lexemes b [] = some [] := by rw [lexemes]

theorem lexemes_lineEnd (b : Bool) {c : Char} (h : endsLine c = true) (cs : List Char) :
    lexemes b (c :: cs) = lexemes true cs := by
  rw [lexemes, if_pos h]

theorem lexemes_space (b : Bool) {c : Char} (hl : endsLine c = false) (h : isSpace c = true)
    (cs : List Char) : lexemes b (c :: cs) = lexemes b cs := by
  rw [lexemes, if_neg (by rw [hl]; exact Bool.false_ne_true), if_pos h]

theorem lexemes_token (b : Bool) {c : Char} {cs rest : List Char} {t : Token}
    (hl : endsLine c = false) (hs : isSpace c = false) (h : token? (c :: cs) = some (t, rest)) :
    lexemes b (c :: cs) = (lexemes false rest).map (⟨t, b⟩ :: ·) := by
  rw [lexemes, if_neg (by rw [hl]; exact Bool.false_ne_true),
    if_neg (by rw [hs]; exact Bool.false_ne_true)]
  split
  · next hn => rw [h] at hn; cases hn
  · next hn =>
    rw [h] at hn
    cases hn
    rfl

end Componentry.Script
