import Componentry.Text.Character
import Componentry.Text.Lines

/-!
# Words of a command line

A command line is a list of words. A word that begins with a dash names an option: by its full
spelling, by the beginning of a long spelling that no other spelling shares, or, for a short option,
with more text right behind it. Everything else is an operand, and so are negative numbers, words
with a space in them, and all words behind two dashes. An option whose value is written in its own
word as two dashes is given without a value.

All words are told apart before any of them counts; then they are gone through from left to right.
-/

namespace Componentry.Command

structure OptionForm (α : Type) where
  key : α
  spellings : List String
  takesValue : Bool

inductive Role (α : Type) where
  | operand
  /-- Two dashes, which end the options. -/
  | separator
  | unknown
  | plain (form : OptionForm α)
  | valued (form : OptionForm α) (value : List Char)
  /-- A short option with text behind it, with or without an equals sign between them. The text is a
  value or more short options. -/
  | joined (form : OptionForm α) (text : List Char)

structure Word (α : Type) where
  text : String
  role : Role α

section Reading

variable {α : Type}

def spelled? (forms : List (OptionForm α)) (s : String) : Option (OptionForm α) :=
  forms.find? fun f => f.spellings.contains s

/-- The options with a spelling that begins like this, once for each such spelling. -/
def beginning (forms : List (OptionForm α)) (start : List Char) : List (OptionForm α) :=
  forms.flatMap fun f => (f.spellings.filter fun s => start.isPrefixOf s.toList).map fun _ => f

/-- A text without one line feed at its end. -/
def dropFinalFeed (cs : List Char) : List Char :=
  if cs.getLast? = some '\n' then cs.dropLast else cs

/-- Whether a text is a number, with or without a fraction, behind its minus sign. -/
def isUnsigned (cs : List Char) : Bool :=
  let digit := fun c => (Text.decimalValue? c).isSome
  let body := dropFinalFeed cs
  match body.dropWhile digit with
  | [] => !body.isEmpty
  | '.' :: places => !places.isEmpty && places.all digit
  | _ => false

def unmatched (text : List Char) : Role α :=
  if isUnsigned text || text.contains ' ' then .operand else .unknown

def valueIn (cs : List Char) : Option (List Char) :=
  match cs.dropWhile (· != '=') with
  | [] => none
  | _ :: value => some value

/-- What a word before the separator is; none if it is the beginning of more than one spelling. -/
def role? (forms : List (OptionForm α)) (s : String) : Option (Role α) :=
  match s.toList with
  | '-' :: second :: rest =>
    let name := '-' :: (second :: rest).takeWhile (· != '=')
    let value := valueIn (second :: rest)
    let found := fun f => match value with
      | none => Role.plain f
      | some v => if second = '-' then .valued f v else .joined f v
    match spelled? forms s, spelled? forms (String.ofList name) with
    | some f, _ => some (.plain f)
    | none, some f => some (found f)
    | none, none =>
      if second = '-' then
        match beginning forms name with
        | [] => some (unmatched (second :: rest))
        | [f] => some (found f)
        | _ => none
      else
        match spelled? forms (String.ofList ['-', second]) with
        | some f => some (.joined f rest)
        | none => some (unmatched (second :: rest))
  | _ => some .operand

/-- The words of a command line; none if one of them is ambiguous. -/
def words? (forms : List (OptionForm α)) : List String → Option (List (Word α))
  | [] => some []
  | s :: rest =>
    if s = "--" then some (⟨s, .separator⟩ :: rest.map (⟨·, .operand⟩))
    else do return ⟨s, ← role? forms s⟩ :: (← words? forms rest)

end Reading

inductive Item (α : Type) where
  | option (key : α) (value : Option String)
  /-- An operand, with the texts behind it if these belong to it. -/
  | operand (text : String) (behind : List String)
  | stray
  | malformed

inductive Operands where
  | forbidden
  /-- There are no more, but a separator right here belongs to the last one. -/
  | closing
  | single
  /-- The first one begins another command line, which holds all words behind it. -/
  | nested
  deriving DecidableEq, Repr

def Operands.behindOption : Operands → Operands
  | closing => forbidden
  | o => o

/-- The value that a text in the word of an option is. Two dashes are none. -/
def attached (text : List Char) : Option String :=
  if text = ['-', '-'] then none else some (String.ofList text)

/-- The options in a word in which a short option has text behind it, and the last of them if its
value has to be the next word; none if the word is malformed. -/
def separate {α : Type} (forms : List (OptionForm α)) (f : OptionForm α) :
    List Char → Option (List (Item α) × Option (OptionForm α))
  | [] => if f.takesValue then some ([.option f.key (some "")], none) else none
  | c :: rest =>
    if f.takesValue then some ([.option f.key (attached (c :: rest))], none)
    else
      match spelled? forms (String.ofList ['-', c]) with
      | none => none
      | some g =>
        if rest.isEmpty then some ([.option f.key none], some g)
        else (separate forms g rest).map fun r => (.option f.key none :: r.1, r.2)

def optionsIn {α : Type} (forms : List (OptionForm α)) :
    Role α → Option (List (Item α) × Option (OptionForm α))
  | .plain f => some ([], some f)
  | .valued f value =>
    if f.takesValue then some ([.option f.key (attached value)], none) else none
  | .joined f text => separate forms f text
  | _ => some ([.stray], none)

abbrev Pending (α : Type) := Option (List (Item α) × α)

def items {α : Type} (forms : List (OptionForm α)) :
    Operands → Pending α → List (Word α) → List (Item α)
  | _, none, [] => []
  | _, some _, [] => [.malformed]
  | operands, some (before, key), w :: rest =>
    match w.role with
    | .operand => before ++ .option key (some w.text) :: items forms operands none rest
    | _ => [.malformed]
  | operands, none, w :: rest =>
    match operands, w.role with
    | .nested, .operand => [.operand w.text (rest.map (·.text))]
    | .nested, .separator => [.operand w.text (rest.map (·.text))]
    | .single, .operand => .operand w.text [] :: items forms .closing none rest
    | .single, .separator => items forms .single none rest
    | .closing, .separator => items forms .forbidden none rest
    | _, .operand => .stray :: items forms .forbidden none rest
    | .forbidden, .separator => .stray :: items forms .forbidden none rest
    | _, role =>
      let operands := operands.behindOption
      match optionsIn forms role with
      | none => [.malformed]
      | some (before, none) => before ++ items forms operands none rest
      | some (before, some f) =>
        if f.takesValue then items forms operands (some (before, f.key)) rest
        else before ++ .option f.key none :: items forms operands none rest

inductive Stop where
  | help
  | misused
  deriving DecidableEq, Repr

/-- Goes through items from left to right until one of them stops it. Stray words count only at the
end. -/
def follow {α σ : Type} (option : σ → α → Option String → Except Stop σ)
    (operand : σ → String → List String → Except Stop σ) :
    (clean : Bool) → σ → List (Item α) → Except Stop σ
  | clean, s, [] => if clean then .ok s else .error .misused
  | clean, s, item :: rest =>
    match item with
    | .option key value =>
      match option s key value with
      | .error stop => .error stop
      | .ok s => follow option operand clean s rest
    | .operand text behind =>
      match operand s text behind with
      | .error stop => .error stop
      | .ok s => follow option operand clean s rest
    | .stray => follow option operand false s rest
    | .malformed => .error .misused

def interpret {α σ : Type} (forms : List (OptionForm α)) (operands : Operands)
    (option : σ → α → Option String → Except Stop σ)
    (operand : σ → String → List String → Except Stop σ) (s : σ) (line : List String) :
    Except Stop σ :=
  match words? forms line with
  | none => .error .misused
  | some ws => follow option operand true s (items forms operands none ws)

end Componentry.Command
