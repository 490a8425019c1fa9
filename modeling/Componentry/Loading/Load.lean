import Componentry.Files.Tree
import Componentry.Json.Reader
import Componentry.Loading.Url
import Componentry.Log.Record

/-!
# Loading descriptions

A description is loaded from a text, from a file or from a URL, and has to be a JSON object. Loading
keeps records for the log and the requests that it made.
-/

namespace Componentry

def LoadError.logged : LoadError → String
  | notAnObject source => "UIDL document from " ++ source ++ " is not a JSON object"
  | noSource => "Neither file_path nor url provided"
  | twoSources => "Both file_path and url provided"
  | badUrl url => "Invalid URL format: " ++ url
  | connection url text => "Connection error for URL " ++ url ++ ": " ++ text
  | e => e.message

namespace Loading

inductive Reply where
  | response (status : Int) (body : String)
  | timedOut
  | unconnected (text : String)
  /-- The request failed by a status, and its response came with it. -/
  | rejected (status : Int)
  /-- The request failed by a status, but no response came with it. -/
  | statusless
  /-- The request failed because what came was no JSON. -/
  | unreadable (complaint : Json.Complaint)
  | failed (text : String)
  deriving DecidableEq, Repr, Inhabited

structure Loaded where
  source : String
  description : Value

end Loading

/-- What loading came to, with the records of the log and the requested URLs, each with its time
limit. -/
structure Loading where
  requests : List (String × Value)
  log : List Log.Record
  result : Result Loading.Loaded

namespace Loading

def failureLog : Failure → List Log.Record
  | .loading e => [Log.error e.logged]
  | .fileNotFound path => [Log.error (Failure.fileNotFound path |>.message?.getD "")]
  | _ => []

def finish (requests : List (String × Value)) (log : List Log.Record) (result : Result Loaded) :
    Loading :=
  match result with
  | .ok l => ⟨requests, log, .ok l⟩
  | .error f => ⟨requests, log ++ failureLog f, .error f⟩

/-- A description from a source, which has to be a map. -/
def requireObject (source : String) : Value → Result Loaded
  | .map es => .ok ⟨source, .map es⟩
  | _ => .error (.loading (.notAnObject source))

def parseText (source text : String) : Result Loaded := do
  requireObject source (← Json.read (fun c => .loading (.invalidText source c)) text.toList)

def parseFile (files : FileTree) (p : Path) : Result Loaded := do
  let text ← files.readText (fun e => .loading (.unreadable p.text e)) p
  requireObject p.text (← Json.read (fun c => .loading (.invalidFile p.text c)) text)

def parseReply (url : String) : Reply → Result Loaded
  | .timedOut => .error (.loading (.timeout url))
  | .unconnected text => .error (.loading (.connection url text))
  | .rejected status => do
    let _ ← Result.ofText (Text.integer status)
    throw (.loading (.status status url))
  | .statusless => Result.fault .memberless
  | .unreadable complaint => .error (.loading (.invalidReply url complaint))
  | .failed text => .error (.loading (.request url text))
  | .response status body => do
    if 400 ≤ status ∧ status < 600 then throw (.loading (.status status url))
    requireObject url (← Json.read (fun c => .loading (.invalidReply url c)) body.toList)

def ofText (source text : String) : Loading := finish [] [] (parseText source text)

def ofFile (files : FileTree) (p : Path) : Loading :=
  match files.has p with
  | .error f => finish [] [] (.error f)
  | .ok false => finish [] [] (.error (.fileNotFound p.text))
  | .ok true =>
    let warning :=
      if p.isJson then [] else [Log.warn ("File does not have .json extension: " ++ p.text)]
    finish [] warning (parseFile files p)

def ofUrl (fetch : String → Reply) (url : String) (limit : Value) : Loading :=
  match checkUrl url with
  | .error f => finish [] [] (.error f)
  | .ok () => finish [(url, limit)] [] (parseReply url (fetch url))

/-- The time limit of a request, in seconds, unless another is given. -/
def defaultLimit : Value := .int 30

/-- A description loaded from a file or a URL, exactly one of which has to be given; an empty text
gives nothing. -/
def load (files : FileTree) (fetch : String → Reply) (file url : String) (limit : Value) :
    Loading :=
  match file.isEmpty, url.isEmpty with
  | true, true => finish [] [] (.error (.loading .noSource))
  | false, false => finish [] [] (.error (.loading .twoSources))
  | false, true => ofFile files (.ofString file)
  | true, false => ofUrl fetch url limit

end Loading

end Componentry
