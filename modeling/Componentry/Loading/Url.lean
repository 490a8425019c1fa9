import Componentry.Failure
import Componentry.Loading.Address

/-!
# URLs

A URL can be requested if it has a scheme and, behind two slashes, a host. A host with brackets has
to consist of an address in them, with at most a user and an at sign before them and a colon and
more behind them; and a host must not hold characters that stand for a delimiter.
-/

namespace Componentry.Loading

def isLeading (c : Char) : Bool := c.toNat ≤ 0x20

def isDropped (c : Char) : Bool := c = '\t' || c = '\r' || c = '\n'

def isSchemeChar (c : Char) : Bool := c.isAlphanum || c = '+' || c = '-' || c = '.'

def disguisedDelimiters : List Nat := [
  0x2047, 0x2048, 0x2049, 0x2100, 0x2101, 0x2105, 0x2106, 0x2A74, 0xFE13, 0xFE16, 0xFE55, 0xFE56,
  0xFE5F, 0xFE6B, 0xFF03, 0xFF0F, 0xFF1A, 0xFF1F, 0xFF20]

def splitScheme (cs : List Char) : List Char × List Char :=
  let scheme := cs.takeWhile (· != ':')
  match cs.dropWhile (· != ':') with
  | _ :: rest =>
    if ((scheme.head?.map Char.isAlpha).getD false) && scheme.all isSchemeChar then (scheme, rest)
    else ([], cs)
  | [] => ([], cs)

def hostOf : List Char → List Char
  | '/' :: '/' :: rest => rest.takeWhile fun c => c != '/' && c != '?' && c != '#'
  | _ => []

/-- The part of a host behind the user that it may name: behind its last at sign. -/
def behindUser (host : List Char) : List Char := (host.reverse.takeWhile (· != '@')).reverse

/-- The address in a host without a user: what stands in brackets at its start, with nothing or a
colon behind them, or else what stands before the first colon. -/
def address? (place : List Char) : Option (List Char) :=
  if place.contains '[' then
    match place with
    | '[' :: rest =>
      match (rest.dropWhile (· != ']')).drop 1 with
      | [] => some (rest.takeWhile (· != ']'))
      | ':' :: _ => some (rest.takeWhile (· != ']'))
      | _ => none
    | _ => none
  else some (place.takeWhile (· != ':'))

/-- Whether a host with brackets, if it has any, has both kinds of them and holds an address. -/
def bracketsHold (host : List Char) : Bool :=
  match host.contains '[', host.contains ']' with
  | false, false => true
  | true, true => (address? (behindUser host)).any isBracketed
  | _, _ => false

def checkUrl (url : String) : Result Unit := do
  let cs := (url.toList.dropWhile isLeading).filter fun c => !isDropped c
  let (scheme, rest) := splitScheme cs
  let host := hostOf rest
  if !bracketsHold host then Result.fault .malformed
  else if host.any fun c => disguisedDelimiters.contains c.toNat then Result.fault .malformed
  else if scheme.isEmpty || host.isEmpty then throw (.loading (.badUrl url))

end Componentry.Loading
