import Componentry.Failure
import Componentry.Text.Character
import Componentry.Text.Lines
import Componentry.Text.Lower
import Componentry.Text.Numeral

/-!
# Styles

A style is written as words: attributes, each of which may be refused by a `not` before it, a color,
a background behind `on`, and an address behind `link`. Its normal form names all of this in a fixed
order and in lower case. A text that is no style is its own normal form, but for its case and the
blanks around it.
-/

namespace Componentry.Program.Terminal

def colorLines : List String := [
  "black red green yellow blue magenta cyan white bright_black bright_red bright_green",
  "bright_yellow bright_blue bright_magenta bright_cyan bright_white grey0 gray0 navy_blue",
  "dark_blue blue3 blue1 dark_green deep_sky_blue4 dodger_blue3 dodger_blue2 green4",
  "spring_green4 turquoise4 deep_sky_blue3 dodger_blue1 green3 spring_green3 dark_cyan",
  "light_sea_green deep_sky_blue2 deep_sky_blue1 spring_green2 cyan3 dark_turquoise turquoise2",
  "green1 spring_green1 medium_spring_green cyan2 cyan1 dark_red deep_pink4 purple4 purple3",
  "blue_violet orange4 grey37 gray37 medium_purple4 slate_blue3 royal_blue1 chartreuse4",
  "dark_sea_green4 pale_turquoise4 steel_blue steel_blue3 cornflower_blue chartreuse3",
  "cadet_blue sky_blue3 steel_blue1 pale_green3 sea_green3 aquamarine3 medium_turquoise",
  "chartreuse2 sea_green2 sea_green1 aquamarine1 dark_slate_gray2 dark_magenta dark_violet",
  "purple light_pink4 plum4 medium_purple3 slate_blue1 yellow4 wheat4 grey53 gray53",
  "light_slate_grey light_slate_gray medium_purple light_slate_blue dark_olive_green3",
  "dark_sea_green light_sky_blue3 sky_blue2 dark_sea_green3 dark_slate_gray3 sky_blue1",
  "chartreuse1 light_green pale_green1 dark_slate_gray1 red3 medium_violet_red magenta3",
  "dark_orange3 indian_red hot_pink3 medium_orchid3 medium_orchid medium_purple2 dark_goldenrod",
  "light_salmon3 rosy_brown grey63 gray63 medium_purple1 gold3 dark_khaki navajo_white3 grey69",
  "gray69 light_steel_blue3 light_steel_blue yellow3 dark_sea_green2 light_cyan3",
  "light_sky_blue1 green_yellow dark_olive_green2 dark_sea_green1 pale_turquoise1 deep_pink3",
  "magenta2 hot_pink2 orchid medium_orchid1 orange3 light_pink3 pink3 plum3 violet",
  "light_goldenrod3 tan misty_rose3 thistle3 plum2 khaki3 light_goldenrod2 light_yellow3 grey84",
  "gray84 light_steel_blue1 yellow2 dark_olive_green1 honeydew2 light_cyan1 red1 deep_pink2",
  "deep_pink1 magenta1 orange_red1 indian_red1 hot_pink dark_orange salmon1 light_coral",
  "pale_violet_red1 orchid2 orchid1 orange1 sandy_brown light_salmon1 light_pink1 pink1 plum1",
  "gold1 navajo_white1 misty_rose1 thistle1 yellow1 light_goldenrod1 khaki1 wheat1 cornsilk1",
  "grey100 gray100 grey3 gray3 grey7 gray7 grey11 gray11 grey15 gray15 grey19 gray19 grey23",
  "gray23 grey27 gray27 grey30 gray30 grey35 gray35 grey39 gray39 grey42 gray42 grey46 gray46",
  "grey50 gray50 grey54 gray54 grey58 gray58 grey62 gray62 grey66 gray66 grey70 gray70 grey74",
  "gray74 grey78 gray78 grey82 gray82 grey85 gray85 grey89 gray89 grey93 gray93"]

def attributeNames : List String := [
  "bold", "dim", "italic", "underline", "blink", "blink2", "reverse", "conceal", "strike",
  "underline2", "frame", "encircle", "overline"]

def attributeAliases : List (String × String) := [
  ("d", "dim"), ("b", "bold"), ("i", "italic"), ("u", "underline"), ("r", "reverse"),
  ("c", "conceal"), ("s", "strike"), ("uu", "underline2"), ("o", "overline")]

def attribute? (word : List Char) : Option String :=
  let w := String.ofList word
  if attributeNames.contains w then some w else attributeAliases.lookup w

def decimalNumber (cs : List Char) : Nat := Text.ofDigits (cs.filterMap Text.decimalValue?)

def argument? (function : String) (cs : List Char) : Option (List Char) :=
  match cs.drop function.length with
  | '(' :: rest =>
    if function.toList.isPrefixOf cs && rest.getLast? = some ')' then some rest.dropLast else none
  | _ => none

/-- Whether three numbers between commas are a color. Something else than two commas between digits
is none, but a number without digits cannot be read. -/
def isTriple (cs : List Char) : Except Fault Bool :=
  let parts := Text.splitAt ',' cs
  let fine := fun c => c = ',' || (Text.decimalValue? c).isSome
  if cs.isEmpty || !cs.all fine || parts.length ≠ 3 then .ok false
  else if parts.any fun p => p.isEmpty || 4300 < p.length then .error .malformed
  else .ok (parts.all fun p => decimalNumber p ≤ 255)

/-- Whether a word in lower case is a color: its name, a number sign and six hexadecimal digits, a
number up to 255, or three of them. -/
def isColor (word : List Char) : Except Fault Bool :=
  let isHex := fun (c : Char) => c.isDigit || ('a' ≤ c && c ≤ 'f')
  if colorLines.any fun l => (Text.splitAt ' ' l.toList).contains word then .ok true
  else if word = "default".toList then .ok true
  else
    match word, argument? "color" word, argument? "rgb" word with
    | '#' :: digits, _, _ => .ok (digits.length == 6 && digits.all isHex)
    | _, some number, _ =>
      .ok (!number.isEmpty && number.length ≤ 3 && number.all Char.isDigit &&
        decimalNumber number ≤ 255)
    | _, none, some numbers => isTriple numbers
    | _, none, none => .ok false

/-- What a style says. Of two words about the same thing the later one counts. -/
structure Style where
  attributes : List (String × Bool) := []
  color : Option (List Char) := none
  background : Option (List Char) := none
  link : Option (List Char) := none

namespace Style

/-- The style with the words of its rest taken into account, none if they are no style. -/
def read? (s : Style) : List (List Char) → Except Fault (Option Style)
  | [] => .ok (some s)
  | word :: rest =>
    let w := Text.lower word
    if w = "on".toList then
      match rest with
      | [] => .ok none
      | next :: rest => do
        if ← isColor (Text.lower next) then
          read? { s with background := some (Text.lower next) } rest
        else return none
    else if w = "not".toList then
      match rest with
      | [] => .ok none
      | next :: rest =>
        match attribute? next with
        | some a => read? { s with attributes := (a, false) :: s.attributes } rest
        | none => .ok none
    else if w = "link".toList then
      match rest with
      | [] => .ok none
      | next :: rest => read? { s with link := some next } rest
    else
      match attribute? w with
      | some a => read? { s with attributes := (a, true) :: s.attributes } rest
      | none => do
        if ← isColor w then read? { s with color := some w } rest else return none

def normalWords (s : Style) : List String :=
  let attributes := attributeNames.filterMap fun a =>
    (s.attributes.lookup a).map fun asked => if asked then a else "not " ++ a
  let ofColor := fun (c : Option (List Char)) => (c.map String.ofList).toList
  let background := (ofColor s.background).flatMap fun c => ["on", c]
  let link := (ofColor s.link).flatMap fun l => ["link", l]
  attributes ++ ofColor s.color ++ background ++ link

end Style

/-- The words of a text between its blanks; `word` is the word that is being read, last character
first. -/
def wordsOf (word : List Char) : List Char → List (List Char)
  | [] => if word.isEmpty then [] else [word.reverse]
  | c :: rest =>
    if Text.isBlank c then (if word.isEmpty then [] else [word.reverse]) ++ wordsOf [] rest
    else wordsOf (c :: word) rest

def normalStyle (cs : List Char) : Except Fault (List Char) := do
  if cs.isEmpty || Text.trim cs = "none".toList then return "none".toList
  match ← Style.read? {} (wordsOf [] cs) with
  | some s =>
    let words := s.normalWords
    return (if words.isEmpty then "none" else Text.join " " words).toList
  | none => return Text.lower (Text.trim cs)

end Componentry.Program.Terminal
