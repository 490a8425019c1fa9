import Componentry.Text.Numeral

/-!
# What is wrong with a JSON text, and where

A complaint names the first thing that keeps a text from being JSON and the place of it: the index
of the character, and the line and column that the index has in the text. Lines end at line feeds.
-/

namespace Componentry.Json

inductive Problem where
  | value
  | name
  | colon
  | comma
  | extra
  | byteOrderMark
  | unterminated
  | controlCharacter
  | escape
  | unicodeEscape
  deriving DecidableEq, Repr, Inhabited

def Problem.wording : Problem → String
  | value => "Expecting value"
  | name => "Expecting property name enclosed in double quotes"
  | colon => "Expecting ':' delimiter"
  | comma => "Expecting ',' delimiter"
  | extra => "Extra data"
  | byteOrderMark => "Unexpected UTF-8 BOM (decode using utf-8-sig)"
  | unterminated => "Unterminated string starting at"
  | controlCharacter => "Invalid control character at"
  | escape => "Invalid \\escape"
  | unicodeEscape => "Invalid \\uXXXX escape"

structure Complaint where
  problem : Problem
  line : Nat
  column : Nat
  index : Nat
  deriving DecidableEq, Repr, Inhabited

namespace Complaint

def locate (text : List Char) (problem : Problem) (index : Nat) : Complaint :=
  let before := text.take index
  let column := (before.reverse.takeWhile (· != '\n')).length + 1
  ⟨problem, before.count '\n' + 1, column, index⟩

def message (c : Complaint) : String :=
  c.problem.wording ++ ": line " ++ Text.natural c.line ++ " column " ++ Text.natural c.column ++
    " (char " ++ Text.natural c.index ++ ")"

end Complaint

end Componentry.Json
