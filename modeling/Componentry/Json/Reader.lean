import Componentry.Json.Complaint
import Componentry.Text.Character
import Componentry.Value.Access

/-!
# Reading JSON text

The reader consumes a text one character at a time. Its state is what the next character has to be
(`Expectation`) and the collections that have been opened and not yet closed (`Frame`). Since every
character is one step, the place of a complaint is the number of steps taken before it, except where
a token that has already begun turns out not to be one: then the place is where the token began.

Besides the values of the format there are `NaN`, `Infinity` and `-Infinity`. Of equal names in one
object the first keeps its place and the last its value. Whole numbers have at most
`Text.digitLimit` digits.
-/

namespace Componentry.Json

/-- A collection that waits for a value, with what it holds so far. Items are held last first. -/
inductive Frame where
  | list (items : List Value)
  | map (entries : Entries Value) (name : String)

inductive TextPoint where
  | plain
  | backslash (place : Nat)
  /-- Inside the four digits behind the letter at this index. -/
  | digits (letter count code : Nat)
  /-- Directly behind the four digits; something has to follow them. -/
  | coded (letter : Nat)
  deriving DecidableEq, Repr

/-- A text in quotes that is being read: where it was opened, its characters last first, and the
first half of a pair that stands for one character. -/
structure TextState where
  opened : Nat
  chars : List Char
  half : Option Nat
  point : TextPoint
  deriving Repr

inductive NumberPoint where
  | zero
  | whole
  /-- Behind a point at this index, before the first digit of the fraction. -/
  | point (place : Nat)
  | fraction
  /-- Behind an exponent letter at this index, with or without a sign. -/
  | mark (place : Nat) (signed : Bool)
  | exponent
  deriving DecidableEq, Repr

/-- A number that is being read: its digits without the point, the number of them before and after
the point, and its exponent. -/
structure NumberState where
  negative : Bool
  digits : Nat
  wholeDigits : Nat
  places : Nat
  real : Bool
  negativeExponent : Bool
  exponent : Nat
  point : NumberPoint
  deriving Repr

inductive Expectation where
  | value
  | firstItem
  | afterItem (items : List Value)
  | name (first : Bool) (entries : Entries Value)
  | nameText (entries : Entries Value) (text : TextState)
  | colon (entries : Entries Value) (name : String)
  | afterMember (entries : Entries Value)
  | text (text : TextState)
  | word (began : Nat) (rest : List Char) (value : Value)
  | minus (began : Nat)
  | number (number : NumberState)
  | finished (value : Value)

structure State where
  index : Nat
  frames : List Frame
  next : Expectation

/-- Why a text cannot be read: it is not JSON at some index, or a number in it is too long. -/
inductive Refusal where
  | problem (p : Problem) (index : Nat)
  | tooLong
  deriving DecidableEq, Repr

def isGap (c : Char) : Bool := c = ' ' || c = '\t' || c = '\n' || c = '\r'

def digit? (c : Char) : Option Nat :=
  if '0' ≤ c ∧ c ≤ '9' then some (c.toNat - 48) else none

/-- The state after a complete value, which goes to the innermost collection that waits for one. -/
def complete (v : Value) : List Frame → List Frame × Expectation
  | [] => ([], .finished v)
  | .list items :: rest => (rest, .afterItem (v :: items))
  | .map es name :: rest => (rest, .afterMember (es.put (.str name) v))

/-- The character for a first half that no second half follows, or for a second half alone. -/
def replacement : Char := Char.ofNat 0xFFFD

namespace TextState

def opening (place : Nat) : TextState := ⟨place, [], none, .plain⟩

def settle (t : TextState) : TextState :=
  match t.half with
  | none => t
  | some _ => { t with chars := replacement :: t.chars, half := none }

def push (t : TextState) (c : Char) : TextState :=
  { t.settle with chars := c :: t.settle.chars, point := .plain }

/-- The text with one more character given by its number, which may be half of a pair. -/
def pushCode (t : TextState) (letter code : Nat) : TextState :=
  if 0xD800 ≤ code ∧ code < 0xDC00 then
    { t.settle with half := some code, point := .coded letter }
  else if 0xDC00 ≤ code ∧ code < 0xE000 then
    match t.half with
    | some high =>
      let joined := Char.ofNat (0x10000 + (high - 0xD800) * 0x400 + (code - 0xDC00))
      { t with chars := joined :: t.chars, half := none, point := .coded letter }
    | none => { t with chars := replacement :: t.chars, point := .coded letter }
  else { t.push (Char.ofNat code) with point := .coded letter }

def finish (t : TextState) : String := String.ofList t.settle.chars.reverse

end TextState

def unescaped? (c : Char) : Option Char :=
  match c with
  | '"' => some '"'
  | '\\' => some '\\'
  | '/' => some '/'
  | 'b' => some '\x08'
  | 'f' => some '\x0c'
  | 'n' => some '\n'
  | 'r' => some '\r'
  | 't' => some '\t'
  | _ => none

/-- What one character makes of a text in quotes: the longer text, or the complete one. -/
def stepText (index : Nat) (c : Char) (t : TextState) : Except Refusal (TextState ⊕ String) :=
  match t.point with
  | .backslash place =>
    if c = 'u' then .ok (.inl { t with point := .digits index 0 0 })
    else
      match unescaped? c with
      | some d => .ok (.inl (t.push d))
      | none => .error (.problem .escape place)
  | .digits letter count code =>
    match Text.hexDigit? c with
    | none => .error (.problem .unicodeEscape letter)
    | some d =>
      if count = 3 then .ok (.inl (t.pushCode letter (16 * code + d)))
      else .ok (.inl { t with point := .digits letter (count + 1) (16 * code + d) })
  | _ =>
    if c = '"' then .ok (.inr t.finish)
    else if c = '\\' then .ok (.inl { t with point := .backslash index })
    else if c.toNat < 0x20 then .error (.problem .controlCharacter index)
    else .ok (.inl (t.push c))

def unfinishedText (t : TextState) : Refusal :=
  match t.point with
  | .digits letter _ _ => .problem .unicodeEscape letter
  | .coded letter => .problem .unicodeEscape letter
  | _ => .problem .unterminated t.opened

namespace NumberState

def starting (negative : Bool) (d : Nat) : NumberState :=
  ⟨negative, d, 1, 0, false, false, 0, if d = 0 then .zero else .whole⟩

def value (n : NumberState) : Except Refusal Value :=
  if n.real then
    let e : Int := if n.negativeExponent then -(n.exponent : Int) else n.exponent
    .ok (.float (Double.ofDecimal n.negative n.digits (e - n.places)))
  else if Text.digitLimit < n.wholeDigits then .error .tooLong
  else .ok (.int (if n.negative then -(n.digits : Int) else n.digits))

/-- The index of the first character that turned out not to belong to the number, if it is not the
next one. -/
def cutAt? (n : NumberState) : Option Nat :=
  match n.point with
  | .point place => some place
  | .mark place _ => some place
  | _ => none

/-- The number with one more character, if the character continues it. -/
def extend? (n : NumberState) (index : Nat) (c : Char) : Option NumberState :=
  let letter := c = 'e' || c = 'E'
  match n.point, digit? c with
  | .zero, _ =>
    if c = '.' then some { n with point := .point index }
    else if letter then some { n with point := .mark index false }
    else none
  | .whole, some d => some { n with digits := 10 * n.digits + d, wholeDigits := n.wholeDigits + 1 }
  | .whole, none =>
    if c = '.' then some { n with point := .point index }
    else if letter then some { n with point := .mark index false }
    else none
  | .point _, some d =>
    some { n with digits := 10 * n.digits + d, places := 1, real := true, point := .fraction }
  | .point _, none => none
  | .fraction, some d => some { n with digits := 10 * n.digits + d, places := n.places + 1 }
  | .fraction, none => if letter then some { n with point := .mark index false } else none
  | .mark _ _, some d => some { n with exponent := d, real := true, point := .exponent }
  | .mark place signed, none =>
    if signed then none
    else if c = '+' then some { n with point := .mark place true }
    else if c = '-' then some { n with negativeExponent := true, point := .mark place true }
    else none
  | .exponent, some d => some { n with exponent := 10 * n.exponent + d }
  | .exponent, none => none

end NumberState

def beginValue (index : Nat) (c : Char) (frames : List Frame) :
    Except Refusal (List Frame × Expectation) :=
  match c with
  | '"' => .ok (frames, .text (.opening index))
  | '[' => .ok (frames, .firstItem)
  | '\x7b' => .ok (frames, .name true [])
  | 'n' => .ok (frames, .word index ['u', 'l', 'l'] .null)
  | 't' => .ok (frames, .word index ['r', 'u', 'e'] (.bool true))
  | 'f' => .ok (frames, .word index ['a', 'l', 's', 'e'] (.bool false))
  | 'N' => .ok (frames, .word index ['a', 'N'] (.float .nan))
  | 'I' => .ok (frames, .word index "nfinity".toList (.float (.infinite false)))
  | '-' => .ok (frames, .minus index)
  | _ =>
    match digit? c with
    | some d => .ok (frames, .number (.starting false d))
    | none => .error (.problem .value index)

/-- The problem with a character that does not continue or close the innermost collection. -/
def afterProblem : Expectation → Problem
  | .finished _ => .extra
  | _ => .comma

/-- What follows a complete value: a comma, or the end of the collection. -/
def stepAfter (index : Nat) (c : Char) (frames : List Frame) (next : Expectation) :
    Except Refusal (List Frame × Expectation) :=
  if isGap c then .ok (frames, next)
  else
    match next with
    | .afterItem items =>
      if c = ',' then .ok (.list items :: frames, .value)
      else if c = ']' then .ok (complete (.list items.reverse) frames)
      else .error (.problem .comma index)
    | .afterMember es =>
      if c = ',' then .ok (frames, .name false es)
      else if c = '\x7d' then .ok (complete (.map es) frames)
      else .error (.problem .comma index)
    | _ => .error (.problem .extra index)

/-- The state after a number that has ended before this character. -/
def endNumber (index : Nat) (c : Char) (frames : List Frame) (n : NumberState) :
    Except Refusal (List Frame × Expectation) := do
  let v ← n.value
  let (frames, next) := complete v frames
  match n.cutAt? with
  | some place => .error (.problem (afterProblem next) place)
  | none => stepAfter index c frames next

def stepNext (index : Nat) (c : Char) (frames : List Frame) :
    Expectation → Except Refusal (List Frame × Expectation)
  | .value => if isGap c then .ok (frames, .value) else beginValue index c frames
  | .firstItem =>
    if isGap c then .ok (frames, .firstItem)
    else if c = ']' then .ok (complete (.list []) frames)
    else beginValue index c (.list [] :: frames)
  | .name first es =>
    if isGap c then .ok (frames, .name first es)
    else if first && c = '\x7d' then .ok (complete (.map []) frames)
    else if c = '"' then .ok (frames, .nameText es (.opening index))
    else .error (.problem .name index)
  | .nameText es t => do
    match ← stepText index c t with
    | .inl t => .ok (frames, .nameText es t)
    | .inr s => .ok (frames, .colon es s)
  | .colon es name =>
    if isGap c then .ok (frames, .colon es name)
    else if c = ':' then .ok (.map es name :: frames, .value)
    else .error (.problem .colon index)
  | .text t => do
    match ← stepText index c t with
    | .inl t => .ok (frames, .text t)
    | .inr s => .ok (complete (.str s) frames)
  | .word began rest v =>
    match rest with
    | [] => .error (.problem .value began)
    | [d] => if c = d then .ok (complete v frames) else .error (.problem .value began)
    | d :: rest =>
      if c = d then .ok (frames, .word began rest v) else .error (.problem .value began)
  | .minus began =>
    match digit? c with
    | some d => .ok (frames, .number (.starting true d))
    | none =>
      if c = 'I' then .ok (frames, .word began "nfinity".toList (.float (.infinite true)))
      else .error (.problem .value began)
  | .number n =>
    match n.extend? index c with
    | some n => .ok (frames, .number n)
    | none => endNumber index c frames n
  | next => stepAfter index c frames next

def step (s : State) (c : Char) : Except Refusal State := do
  let (frames, next) ← stepNext s.index c s.frames s.next
  return ⟨s.index + 1, frames, next⟩

/-- The problem with a text that ends where a complete value would have to be followed by more. -/
def endAfter (index : Nat) : Expectation → Except Refusal Value
  | .finished v => .ok v
  | _ => .error (.problem .comma index)

def State.finish (s : State) : Except Refusal Value :=
  match s.next with
  | .value => .error (.problem .value s.index)
  | .firstItem => .error (.problem .value s.index)
  | .name _ _ => .error (.problem .name s.index)
  | .nameText _ t => .error (unfinishedText t)
  | .colon _ _ => .error (.problem .colon s.index)
  | .text t => .error (unfinishedText t)
  | .word began _ _ => .error (.problem .value began)
  | .minus began => .error (.problem .value began)
  | .number n => do
    let v ← n.value
    let next := (complete v s.frames).2
    match n.cutAt? with
    | some place => .error (.problem (afterProblem next) place)
    | none => endAfter s.index next
  | next => endAfter s.index next

def State.initial : State := ⟨0, [], .value⟩

def parse (text : List Char) : Except Refusal Value :=
  if text.head? = some (Char.ofNat 0xFEFF) then .error (.problem .byteOrderMark 0)
  else do (← text.foldlM step State.initial).finish

/-- The value that a text stands for; what is wrong with it becomes a failure of the caller's. -/
def read (complain : Complaint → Failure) (text : List Char) : Result Value :=
  match parse text with
  | .ok v => .ok v
  | .error (.problem p index) => .error (complain (Complaint.locate text p index))
  | .error .tooLong => Result.fault .malformed

end Componentry.Json
