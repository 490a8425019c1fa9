import Componentry.Value.Access

/-!
# Names of the script

An identifier name starts with a letter, an underscore or a dollar sign and goes on with those and
digits, all of them ASCII; one line feed at its end is let through. A reserved word is an identifier
name, but it cannot refer to anything.
-/

namespace Componentry.Naming

def beginsIdentifier (c : Char) : Bool := c.isAlpha || c = '_' || c = '$'

def continuesIdentifier (c : Char) : Bool := beginsIdentifier c || c.isDigit

/-- Whether these are characters that continue an identifier, with at most one line feed behind
them. -/
def identifierTail : List Char → Bool
  | [] => true
  | ['\n'] => true
  | c :: rest => continuesIdentifier c && identifierTail rest

def isIdentifierName (s : String) : Bool :=
  match s.toList with
  | [] => false
  | c :: rest => beginsIdentifier c && identifierTail rest

def reservedWords : List String := [
  "break", "case", "catch", "class", "const", "continue", "debugger", "default", "delete", "do",
  "else", "enum", "export", "extends", "false", "finally", "for", "function", "if", "import", "in",
  "instanceof", "new", "null", "return", "super", "switch", "this", "throw", "true", "try",
  "typeof", "var", "void", "while", "with", "yield", "let", "static", "implements", "interface",
  "package", "private", "protected", "public", "await"]

def isReference (s : String) : Bool := isIdentifierName s && !reservedWords.contains s

end Componentry.Naming
