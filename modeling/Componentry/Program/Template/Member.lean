import Componentry.Program.Template.Problem
import Componentry.Value.Access
import Componentry.Value.Display

/-!
# Members of what expressions come to

An expression comes to a value, to a kind of values, to something else that is there, or to
something that is not there. A value has members of its own: the parts of a number or a node, its
kind, and the operations on it. These come before the entries of a map. A missing member is
something that is not there, and has no members.
-/

namespace Componentry.Program.Template

inductive Evaluated where
  | value (v : Value)
  | kind (name : String)
  /-- Something else that is there: its kind in messages, and the text that is inserted, if there is
  one. -/
  | thing (kind : String) (text : Option String)
  | undefinedName (name : String)
  | noMember (kind name : String)
  | noElement (kind : String) (index : Nat)
  deriving Inhabited

namespace Evaluated

def shown : Evaluated → Except Problem String
  | value v => inserted v.shown
  | kind name => .ok ("<class '" ++ name ++ "'>")
  | thing _ text => inserted text
  | _ => .ok ""
where
  inserted (text : Option String) : Except Problem String :=
    match text with
    | some s => .ok s
    | none => .error .tooLong

def truthy : Evaluated → Bool
  | value v => v.truthy
  | kind _ => true
  | thing _ _ => true
  | _ => false

end Evaluated

def kindOf : Value → String
  | .null => "None"
  | .ellipsis => "Ellipsis"
  | v => v.fullKindName ++ " object"

def partsOfNode : Node → List (String × Value)
  | .identifier a => [("name", a)]
  | .stringLiteral a => [("value", a)]
  | .numericLiteral a => [("value", a)]
  | .booleanLiteral a => [("value", a)]
  | .arrayExpression es => [("elements", nodes es)]
  | .objectProperty k v s => [("key", .node k), ("value", .node v), ("shorthand", s)]
  | .objectMethod k p b => [("key", .node k), ("params", nodes p), ("body", .node b)]
  | .objectExpression ps => [("properties", nodes ps)]
  | .arrowFunction p b => [("params", nodes p), ("body", .node b)]
  | .memberExpression o p c => [("object", .node o), ("property", .node p), ("computed", c)]
  | .unaryExpression o a => [("operator", o), ("argument", .node a)]
  | .assignmentExpression o l r => [("operator", o), ("left", .node l), ("right", .node r)]
  | .callExpression c a => [("callee", .node c), ("arguments", nodes a)]
  | .expressionStatement e => [("expression", .node e)]
  | .returnStatement a => [("argument", (a.map Value.node).getD .null)]
  | .blockStatement b => [("body", nodes b)]
  | .exportDefault d => [("declaration", .node d)]
  | _ => []
where
  nodes (ns : List Node) : Value := .tuple (ns.map .node)

def partsOfValue : Value → List (String × Value)
  | .bool b => wholeParts (if b then 1 else 0)
  | .int i => wholeParts i
  | .float x => [("real", .float x), ("imag", .float (Double.ofInt 0))]
  | .node n => partsOfNode n
  | _ => []
where
  wholeParts (i : Int) : List (String × Value) :=
    [("real", .int i), ("imag", .int 0), ("numerator", .int i), ("denominator", .int 1)]

def textOperations : List String := [
  "capitalize", "casefold", "center", "count", "encode", "endswith", "expandtabs", "find", "format",
  "format_map", "index", "isalnum", "isalpha", "isascii", "isdecimal", "isdigit", "isidentifier",
  "islower", "isnumeric", "isprintable", "isspace", "istitle", "isupper", "join", "ljust", "lower",
  "lstrip", "maketrans", "partition", "removeprefix", "removesuffix", "replace", "rfind", "rindex",
  "rjust", "rpartition", "rsplit", "rstrip", "split", "splitlines", "startswith", "strip",
  "swapcase", "title", "translate", "upper", "zfill"]

def textOnlyOperations : List String := [
  "casefold", "encode", "format", "format_map", "isdecimal", "isidentifier", "isnumeric",
  "isprintable"]

def operations : Value → List String
  | .str _ => textOperations
  | .bytes _ =>
    ["decode", "fromhex", "hex"] ++ textOperations.filter (!textOnlyOperations.contains ·)
  | .list _ => [
    "append", "clear", "copy", "count", "extend", "index", "insert", "pop", "remove", "reverse",
    "sort"]
  | .tuple _ => ["count", "index"]
  | .map _ => [
    "clear", "copy", "fromkeys", "get", "items", "keys", "pop", "popitem", "setdefault", "update",
    "values"]
  | .set _ => [
    "add", "clear", "copy", "difference", "difference_update", "discard", "intersection",
    "intersection_update", "isdisjoint", "issubset", "issuperset", "pop", "remove",
    "symmetric_difference", "symmetric_difference_update", "union", "update"]
  | .bool _ => wholeOperations
  | .int _ => wholeOperations
  | .float _ => ["as_integer_ratio", "conjugate", "fromhex", "hex", "is_integer"]
  | _ => []
where
  wholeOperations : List String :=
    ["as_integer_ratio", "bit_count", "bit_length", "conjugate", "from_bytes", "to_bytes"]

def operation? (v : Value) (name : String) : Option Evaluated :=
  match v with
  | .node (.objectExpression ps) =>
    if name = "get" || name = "keys" then
      some (.thing "method object" ((Value.node (.objectExpression ps)).display.map fun displayed =>
        "<bound method ObjectExpression." ++ name ++ " of " ++ displayed ++ ">"))
    else none
  | v =>
    if (operations v).contains name then
      some (.thing "builtin_function_or_method object"
        ("<built-in method " ++ name ++ " of " ++ v.kindName ++ " object>"))
    else none

def ownMember? (v : Value) (name : String) : Option Evaluated :=
  if name = "__class__" then some (.kind v.fullKindName)
  else ((partsOfValue v).lookup name).map .value <|> operation? v name

def entry? (v : Value) (name : String) : Option Evaluated :=
  match v with
  | .map es => (Entries.get? es name).map .value
  | _ => none

def lastName (name : String) : String :=
  String.ofList ((name.toList.reverse.takeWhile (· != '.')).reverse)

def collectionKinds : List (String × Value) :=
  [("dict", .map []), ("list", .list []), ("tuple", .tuple []), ("set", .set [])]

def narrowed (kind display : String) : Evaluated :=
  .thing "types.GenericAlias object" (kind ++ "[" ++ display ++ "]")

/-- A member of a kind of values: its name, or an operation on values of a kind of collections. A
kind of collections can be narrowed by any other name. -/
def memberOfKind (kind name : String) : Evaluated :=
  if name = "__name__" then .value (.str (lastName kind))
  else
    match collectionKinds.lookup kind with
    | none => .noMember "type object" name
    | some v =>
      if (operations v).contains name then
        .thing "method_descriptor object" ("<method '" ++ name ++ "' of '" ++ kind ++ "' objects>")
      else narrowed kind (Text.quoted name)

/-- An element of a kind of values, which is the kind narrowed if it is one of collections. -/
def elementOfKind (kind : String) (index : Nat) : Evaluated :=
  match collectionKinds.lookup kind with
  | none => .noElement "type object" index
  | some _ => narrowed kind (Text.natural index)

def memberOf (name : String) : Evaluated → Except Problem Evaluated
  | .undefinedName n => .error (.undefinedName n)
  | .noMember kind n => .error (.noMember kind n)
  | .noElement kind i => .error (.noElement kind i)
  | .kind s => .ok (memberOfKind s name)
  | .thing kind _ => .ok (.noMember kind name)
  | .value v => .ok ((ownMember? v name <|> entry? v name).getD (.noMember (kindOf v) name))

def element? (index : Nat) : Value → Option Value
  | .str s => s.toList[index]?.map fun c => .str (String.singleton c)
  | .bytes b => b[index]?.map fun x => .int x.toNat
  | .list xs => xs[index]?
  | .tuple xs => xs[index]?
  | .map es => Entries.find? (.int index) es
  | _ => none

def elementOf (index : Nat) : Evaluated → Except Problem Evaluated
  | .undefinedName n => .error (.undefinedName n)
  | .noMember kind n => .error (.noMember kind n)
  | .noElement kind i => .error (.noElement kind i)
  | .kind s => .ok (elementOfKind s index)
  | .thing kind _ => .ok (.noElement kind index)
  | .value v => .ok (((element? index v).map .value).getD (.noElement (kindOf v) index))

end Componentry.Program.Template
