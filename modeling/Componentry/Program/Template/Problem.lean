import Componentry.Text.Lines
import Componentry.Text.Numeral
import Componentry.Text.Quoted
import Componentry.Text.Utf8

/-!
# Why a template cannot be rendered

A template may be missing, break a rule of the template language, or ask for something that its
context does not have.
-/

namespace Componentry.Program.Template

inductive EscapeProblem where
  /-- An escape by a number has too few digits; `form` is how it is written. -/
  | truncated (form : String)
  | beyond
  | nameless
  deriving DecidableEq, Repr, Inhabited

inductive Problem where
  | missing (template : String)
  | undecodable (e : Text.DecodingError)
  | unfinishedComment
  | unexpectedCharacter (c : Char) (place : Nat)
  | unmatched (bracket : Char) (awaited : Option Char)
  | badIdentifier
  | badEscape (e : EscapeProblem)
  | unexpected (found : String)
  | noExpression (found : String)
  | unmet (what found : String)
  | endedBefore (what : String)
  | noTagName
  | noMemberName
  /-- An argument without a name stands behind one with a name. -/
  | misplacedArgument
  /-- The template ends inside blocks; `awaited` are the tags that could come next. -/
  | unfinishedBlock (awaited : List String)
  /-- A tag is unknown, or stands where it must not; `awaited` are those of the innermost block and
  `outer` those of the blocks around it. -/
  | unknownTag (name : String) (awaited outer : List String)
  | unknownFilter (name : String)
  | missingFilter (name : String)
  | unknownArgument (name : String)
  | repeatedArgument (name : String)
  | tooManyArguments (given : Nat)
  | badKey
  | reservedKey
  | undefinedName (name : String)
  | noMember (kind name : String)
  | noElement (kind : String) (index : Nat)
  /-- A value has no text. -/
  | tooLong
  deriving DecidableEq, Repr, Inhabited

def EscapeProblem.message : EscapeProblem → String
  | truncated form => "truncated " ++ form ++ " escape"
  | beyond => "illegal Unicode character"
  | nameless => "malformed \\N character escape"

/-- Tags that could come next, as a sentence and the one about the block that is open. -/
def lookingFor (awaited : List String) : String :=
  "Jinja was looking for the following tags: " ++
    Text.join " or " (awaited.map Text.quoted) ++ "."

def innermost (awaited : List String) : String :=
  if awaited.isEmpty then "" else " The innermost block that needs to be closed is 'if'."

def filterSignature : String := "TemplateEngine._comment_filter()"

def Problem.message : Problem → String
  | missing template => template
  | undecodable e => e.message
  | unfinishedComment => "Missing end of comment tag"
  | unexpectedCharacter c place =>
    "unexpected char " ++ Text.quoted (String.singleton c) ++ " at " ++ Text.natural place
  | unmatched bracket none => "unexpected '" ++ String.singleton bracket ++ "'"
  | unmatched bracket (some wanted) =>
    "unexpected '" ++ String.singleton bracket ++ "', expected '" ++ String.singleton wanted ++ "'"
  | badIdentifier => "Invalid character in identifier"
  | badEscape e => e.message
  | unexpected found => "unexpected " ++ Text.quoted found
  | noExpression found => "Expected an expression, got " ++ Text.quoted found
  | unmet what found =>
    "expected token " ++ Text.quoted what ++ ", got " ++ Text.quoted found
  | endedBefore what => "unexpected end of template, expected " ++ Text.quoted what ++ "."
  | noTagName => "tag name expected"
  | noMemberName => "expected name or number"
  | misplacedArgument => "invalid syntax for function call expression"
  | unfinishedBlock awaited =>
    "Unexpected end of template. " ++ lookingFor awaited ++ innermost awaited
  | unknownTag name awaited outer =>
    let first := "Encountered unknown tag " ++ Text.quoted name ++ "."
    if awaited.isEmpty then first
    else if (awaited ++ outer).contains name then
      first ++ " You probably made a nesting mistake. Jinja is expecting this tag, but " ++
        "currently looking for " ++ Text.join " or " (awaited.map Text.quoted) ++ "." ++
        innermost awaited
    else first ++ " " ++ lookingFor awaited ++ innermost awaited
  | unknownFilter name => "No filter named " ++ Text.quoted name ++ "."
  | missingFilter name => "No filter named " ++ Text.quoted name ++ " found."
  | unknownArgument name =>
    filterSignature ++ " got an unexpected keyword argument '" ++ name ++ "'"
  | repeatedArgument name =>
    filterSignature ++ " got multiple values for argument '" ++ name ++ "'"
  | tooManyArguments given =>
    filterSignature ++ " takes from 2 to 3 positional arguments but " ++
      Text.natural (given + 2) ++ " were given"
  | badKey => "keywords must be strings"
  | reservedKey => "Template.render() got multiple values for argument 'self'"
  | undefinedName name => Text.quoted name ++ " is undefined"
  | noMember kind name => Text.quoted kind ++ " has no attribute " ++ Text.quoted name
  | noElement kind index => kind ++ " has no element " ++ Text.natural index
  | tooLong =>
    "Exceeds the limit (" ++ Text.natural Text.digitLimit ++ " digits) for integer string " ++
      "conversion; use sys.set_int_max_str_digits() to increase the limit"

end Componentry.Program.Template
