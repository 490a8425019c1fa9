import Componentry.Program.Template.Member
import Componentry.Text.Compatible

/-!
# What names stand for in a template

A name stands for the value that the context gives it, or else for one of a few things that are
always there; the name of the template itself is not the context's to give. Compatible names share
one place, and what the template names last, the first time that it names it, stays there.
-/

namespace Componentry.Program.Template

def selfName : String := "self"

def globals : List (String × Evaluated) := [
  ("range", .kind "range"),
  ("dict", .kind "dict"),
  ("lipsum", .thing "function object" "<function generate_lorem_ipsum>"),
  ("cycler", .kind "jinja2.utils.Cycler"),
  ("joiner", .kind "jinja2.utils.Joiner"),
  ("namespace", .kind "jinja2.utils.Namespace")]

/-- What names are looked up in: the template, its context, and the names in it, each once, in the
order of the source. -/
structure Scope where
  template : String
  context : Entries Value
  names : List String

namespace Scope

/-- The name whose value is in the place of a name. A template's name for itself gives way to all
others that share its place. -/
def holder (s : Scope) (name : String) : String :=
  let others := s.names.filter (· ≠ selfName)
  let own := s.names.filter (· = selfName)
  ((own ++ others).filter (Text.compatible name)).getLast?.getD name

def find? (s : Scope) (name : String) : Option Evaluated :=
  if name = selfName then
    some (.thing "jinja2.runtime.TemplateReference object"
      ("<TemplateReference " ++ Text.quoted s.template ++ ">"))
  else (s.context.get? name).map .value <|> globals.lookup name

def lookup (s : Scope) (name : String) : Evaluated :=
  (s.find? (s.holder name)).getD (.undefinedName name)

end Scope

end Componentry.Program.Template
