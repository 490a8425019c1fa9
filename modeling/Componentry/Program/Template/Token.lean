import Componentry.Double.Basic
import Componentry.Program.Template.Escape
import Componentry.Text.Character
import Componentry.Text.Identifier
import Componentry.Text.Numeral

/-!
# Tokens of templates

What stands between the marks of an output or a tag is a sequence of names, texts in quotes,
numbers and symbols. The sequence ends with the closing mark, with the end of the template, or with
something that cannot be read, which is a problem once it is reached.
-/

namespace Componentry.Program.Template

inductive Enclosure where
  | output
  | tag
  deriving DecidableEq, Repr, Inhabited

def Enclosure.closing : Enclosure → List Char
  | output => ['\x7d', '\x7d']
  | tag => ['%', '\x7d']

def Enclosure.closingName : Enclosure → String
  | output => "end of print statement"
  | tag => "end of statement block"

inductive Token where
  | name (s : String)
  | text (s : String)
  | integer (n : Nat)
  | float (x : Double)
  | symbol (s : String)
  | close (e : Enclosure)
  | ended
  | broken (p : Problem)
  deriving Inhabited

def Token.found : Token → String
  | name s => s
  | text _ => "string"
  | integer _ => "integer"
  | float _ => "float"
  | symbol s => s
  | close e => e.closingName
  | ended => "end of template"
  | broken p => p.message

/-- The digits at the start of a text, with single low lines between them. `inside` tells that a low
line can come first. -/
def digitRun (isDigit : Char → Bool) (inside : Bool) : List Char → List Char
  | [] => []
  | c :: rest =>
    if isDigit c then c :: digitRun isDigit true rest
    else if inside && c = '_' && rest.head?.any isDigit then c :: digitRun isDigit false rest
    else []

def numberOf (base : Nat) (run : List Char) : Nat := numberIn base (run.filter (· != '_'))

def exponentAt? (cs : List Char) : Option (Int × Nat) :=
  match cs with
  | e :: rest =>
    let (sign, behind) := match rest with
      | '-' :: r => ((-1 : Int), r)
      | '+' :: r => (1, r)
      | r => (1, r)
    let run := digitRun Char.isDigit false behind
    if (e = 'e' || e = 'E') && !run.isEmpty then
      some (sign * numberOf 10 run, cs.length - behind.length + run.length)
    else none
  | [] => none

/-- The number with a fraction or an exponent at the start of a text, and its length. -/
def floatAt? (cs : List Char) : Option (Token × Nat) :=
  let whole := digitRun Char.isDigit false cs
  let behind := cs.drop whole.length
  let fraction := match behind with
    | '.' :: rest => digitRun Char.isDigit false rest
    | _ => []
  let length := whole.length + (if fraction.isEmpty then 0 else fraction.length + 1)
  let exponent := exponentAt? (cs.drop length)
  let places := (fraction.filter (· != '_')).length
  if whole.isEmpty || (fraction.isEmpty && exponent.isNone) then none
  else
    let (e, more) := exponent.getD (0, 0)
    some (.float (Double.ofDecimal false (numberOf 10 (whole ++ fraction)) (e - places)),
      length + more)

/-- The value of a digit behind the mark of a base. The decimal digits of all scripts are digits of
base sixteen. -/
def markedDigit? (base : Nat) (c : Char) : Option Nat :=
  ((Text.hexDigit? c).or (if base = 16 then Text.decimalValue? c else none)).filter (· < base)

/-- The whole number with a mark of its base at the start of a text, and its length. -/
def markedIntegerAt? : List Char → Option (Token × Nat)
  | '0' :: mark :: rest =>
    let base := match mark.toLower with
      | 'b' => 2
      | 'o' => 8
      | 'x' => 16
      | _ => 0
    let run := digitRun (fun c => (markedDigit? base c).isSome) true rest
    let value := (run.filterMap (markedDigit? base)).foldl (fun n d => base * n + d) 0
    if run.isEmpty then none else some (.integer value, run.length + 2)
  | _ => none

/-- The whole number at the start of a text, and its length. Zero is the only one that begins with
a zero, which may be repeated. The first digit is one of ASCII. -/
def integerAt? (cs : List Char) : Option (Token × Nat) :=
  let isDecimal := fun c => (Text.decimalValue? c).isSome
  let zeros := digitRun (· == '0') false cs
  let run := if zeros.isEmpty then digitRun isDecimal false cs else zeros
  (markedIntegerAt? cs).or
    (if cs.head?.any Char.isDigit then
      some (.integer (Text.ofDigits (run.filterMap Text.decimalValue?)), run.length)
    else none)

def nameAt? (cs : List Char) : Option (Token × Nat) :=
  let word := cs.takeWhile Text.isWordChar
  if word.isEmpty then none
  else
    let token := if Text.isIdentifier word then Token.name (String.ofList word)
      else .broken .badIdentifier
    some (token, word.length)

def beforeQuote? (quote : Char) : List Char → Option (List Char)
  | [] => none
  | '\\' :: c :: rest => (beforeQuote? quote rest).map fun r => '\\' :: c :: r
  | c :: rest => if c = quote then some [] else (beforeQuote? quote rest).map (c :: ·)

def textAt? : List Char → Option (Token × Nat)
  | quote :: rest =>
    if quote = '"' || quote = '\'' then
      (beforeQuote? quote rest).map fun inside =>
        let token := match readEscapes 0 inside with
          | .ok cs => Token.text (String.ofList cs)
          | .error e => .broken (.badEscape e)
        (token, inside.length + 2)
    else none
  | [] => none

def symbols : List String := [
  "//", "**", "==", "!=", ">=", "<=", "+", "-", "/", "*", "%", "~", "[", "]", "(", ")",
  "\x7b", "\x7d", ">", "<", "=", ".", ":", "|", ",", ";"]

def symbolAt? (cs : List Char) : Option (Token × Nat) :=
  (symbols.find? fun s => s.toList.isPrefixOf cs).map fun s => (.symbol s, s.length)

/-- The token at the start of a text, and its length. Right behind a point a number has no
fraction. -/
def tokenAt? (behindPoint : Bool) (cs : List Char) : Option (Token × Nat) :=
  let float := if behindPoint then none else floatAt? cs
  float <|> integerAt? cs <|> nameAt? cs <|> textAt? cs <|> symbolAt? cs

end Componentry.Program.Template
