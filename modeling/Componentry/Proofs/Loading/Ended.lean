import Componentry.Loading.Load
import Componentry.Proofs.Files.Reached
import Componentry.Proofs.Json.Plain

/-!
# How loading ends

Loading is meant to end with a description, with an error of its own, or with the report of a file
that is not there. It ends otherwise just where something is met that it is not provided for: a path
or a name that is too long for the file system, a file that holds no text, brackets around what is
no address, a failed request without its response, and a number that is too long to be read or
shown.
-/

namespace Componentry.Loading

open FileTree (HoldsText)

/-- Loading has ended with a description, which is a map, or with an error of its own. -/
inductive IsSettled : Result Loaded → Prop
  | loaded {source : String} {es : Entries Value} (hes : (Value.map es).IsPlain written) :
    IsSettled (.ok ⟨source, .map es⟩)
  | refused (e : LoadError) : IsSettled (.error (.loading e))

/-- The ways in which loading ends, told apart by whether something is met that it is not provided
for, and by whether a file is not there. -/
inductive Ends (escapes absent : Prop) : Result Loaded → Prop
  | settled {r : Result Loaded} (hfine : ¬ escapes) (hthere : ¬ absent) (hr : IsSettled r) :
    Ends escapes absent r
  | missing {path : String} (hfine : ¬ escapes) (habsent : absent) :
    Ends escapes absent (.error (.fileNotFound path))
  | astray {f : Fault} (hescapes : escapes) (hthere : ¬ absent) :
    Ends escapes absent (Result.fault f)

namespace Ends

variable {escapes absent : Prop} {r : Result Loaded}

theorem declared_iff (h : Ends escapes absent r) :
    (IsSettled r ∨ ∃ path, r = .error (.fileNotFound path)) ↔ ¬ escapes := by
  cases h with
  | settled hfine _ hr => exact ⟨fun _ => hfine, fun _ => .inl hr⟩
  | missing hfine _ => exact ⟨fun _ => hfine, fun _ => .inr ⟨_, rfl⟩⟩
  | astray hescapes _ =>
    refine ⟨?_, fun hfine => absurd hescapes hfine⟩
    rintro (hr | ⟨path, hpath⟩)
    · cases hr
    · cases hpath

theorem missing_iff (h : Ends escapes absent r) :
    (∃ path, r = .error (.fileNotFound path)) ↔ absent := by
  cases h with
  | settled _ hthere hr =>
    refine ⟨fun ⟨path, hpath⟩ => ?_, fun habsent => absurd habsent hthere⟩
    rw [hpath] at hr
    cases hr
  | missing _ habsent => exact ⟨fun _ => habsent, fun _ => ⟨_, rfl⟩⟩
  | astray _ hthere => exact ⟨nofun, fun habsent => absurd habsent hthere⟩

theorem congr {escapes' absent' : Prop} (h : Ends escapes absent r) (hescapes : escapes ↔ escapes')
    (habsent : absent ↔ absent') : Ends escapes' absent' r :=
  propext hescapes ▸ propext habsent ▸ h

end Ends

theorem result_finish (requests : List (String × Value)) (log : List Log.Record)
    (r : Result Loaded) : (finish requests log r).result = r := by
  cases r <;> rfl

/-- A text is a description or is refused, unless a number in it is too long. -/
theorem ends_read (complain : Json.Complaint → LoadError) (source : String) (text : List Char) :
    Ends (Json.parse text = .error .tooLong) False
      (Json.read (fun c => .loading (complain c)) text >>= requireObject source) := by
  unfold Json.read
  cases hparse : Json.parse text with
  | error refusal =>
    cases refusal with
    | problem problem index => exact .settled nofun id (.refused _)
    | tooLong => exact .astray rfl id
  | ok v =>
    have hplain := (Json.isPlain_of_parse hparse).of_limited
    cases v with
    | map es => exact .settled nofun id (.loaded hplain)
    | _ => exact .settled nofun id (.refused _)

/-- A file that loading is not provided for. -/
inductive FileEscapes (files : FileTree) (p : Path) : Prop
  | longName (hpath : files.Refuses p)
  | noText {content : ByteArray} (hcontent : files.Reaches p (.file content))
    (htext : ∀ text, ¬ HoldsText content text)
  | longNumber {content : ByteArray} {text : List Char}
    (hcontent : files.Reaches p (.file content)) (htext : HoldsText content text)
    (hnumber : Json.parse text = .error .tooLong)

/-- Nothing stands where a path leads, and it may be looked for. -/
def IsAbsent (files : FileTree) (p : Path) : Prop :=
  ¬ files.Refuses p ∧ ∀ e, ¬ files.Reaches p e

section

variable {files : FileTree} {p : Path}

theorem fileEscapes_text_iff {content : ByteArray} {text : List Char}
    (hcontent : files.Reaches p (.file content)) (htext : HoldsText content text) :
    FileEscapes files p ↔ Json.parse text = .error .tooLong := by
  refine ⟨fun h => ?_, .longNumber hcontent htext⟩
  cases h with
  | longName hpath => exact absurd hpath hcontent.not_refuses
  | noText hcontent' hno =>
    cases hcontent.unique hcontent'
    exact absurd htext (hno text)
  | longNumber hcontent' htext' hnumber =>
    cases hcontent.unique hcontent'
    exact htext.unique htext' ▸ hnumber

theorem ends_parseFile {e : Entry} (he : files.Reaches p e) :
    Ends (FileEscapes files p) False (parseFile files p) := by
  unfold parseFile
  cases e with
  | directory =>
    rw [FileTree.readText_of_directory he]
    refine .settled (fun hescapes => ?_) id (.refused _)
    cases hescapes with
    | longName hpath => exact he.not_refuses hpath
    | noText hcontent => cases he.unique hcontent
    | longNumber hcontent => cases he.unique hcontent
  | file content =>
    by_cases htext : ∃ text, HoldsText content text
    · obtain ⟨text, htext⟩ := htext
      rw [FileTree.readText_of_holdsText he htext]
      exact (ends_read _ _ _).congr (fileEscapes_text_iff he htext).symm Iff.rfl
    · have hno := not_exists.mp htext
      rw [FileTree.readText_of_no_text he hno]
      exact .astray (.noText he hno) id

theorem ends_ofFile (files : FileTree) (p : Path) :
    Ends (FileEscapes files p) (IsAbsent files p) (ofFile files p).result := by
  unfold ofFile
  rcases files.lookup_cases p with hrefuses | ⟨hsought, ⟨e, he⟩ | ⟨hnothing, hlookup⟩⟩
  · rw [FileTree.has_of_refuses hrefuses]
    exact .astray (.longName hrefuses) fun h => h.1 hrefuses
  · rw [FileTree.has_of_reaches he]
    dsimp only
    rw [result_finish]
    exact (ends_parseFile he).congr Iff.rfl ⟨False.elim, fun h => h.2 e he⟩
  · rw [FileTree.has, hlookup]
    refine .missing (fun hescapes => ?_) ⟨hsought, hnothing⟩
    cases hescapes with
    | longName hpath => exact hsought hpath
    | noText hcontent => exact hnothing _ hcontent
    | longNumber hcontent => exact hnothing _ hcontent

end

/-- The scheme of a URL and what stands behind it, without the characters that do not count. -/
def urlParts (url : String) : List Char × List Char :=
  splitScheme ((url.toList.dropWhile isLeading).filter fun c => !isDropped c)

/-- The host of a URL has brackets that hold no address, or characters that stand for others. -/
def IsMisshapen (url : String) : Prop :=
  bracketsHold (hostOf (urlParts url).2) = false ∨
    ∃ c ∈ hostOf (urlParts url).2, c.toNat ∈ disguisedDelimiters

/-- A URL has a scheme and a host, so it is requested. -/
def IsComplete (url : String) : Prop := (urlParts url).1 ≠ [] ∧ hostOf (urlParts url).2 ≠ []

/-- A reply that loading is not provided for. -/
inductive ReplyEscapes : Reply → Prop
  | statusless : ReplyEscapes .statusless
  | longStatus {status : Int} (hstatus : ¬ Text.IsShort status) : ReplyEscapes (.rejected status)
  | longNumber {status : Int} {body : String} (hstatus : ¬ (400 ≤ status ∧ status < 600))
    (hnumber : Json.parse body.toList = .error .tooLong) : ReplyEscapes (.response status body)

/-- A URL that loading is not provided for, or for which such a reply comes. -/
inductive UrlEscapes (fetch : String → Reply) (url : String) : Prop
  | misshapen (hhost : IsMisshapen url)
  | reply (hhost : ¬ IsMisshapen url) (hcomplete : IsComplete url)
    (hreply : ReplyEscapes (fetch url))

theorem ends_parseReply (url : String) (reply : Reply) :
    Ends (ReplyEscapes reply) False (parseReply url reply) := by
  cases reply with
  | response status body =>
    rw [parseReply]
    by_cases hstatus : 400 ≤ status ∧ status < 600
    · rw [if_pos hstatus]
      refine .settled (fun hescapes => ?_) id (.refused _)
      cases hescapes with
      | longNumber hfine _ => exact hfine hstatus
    · rw [if_neg hstatus]
      refine (ends_read _ _ _).congr ⟨.longNumber hstatus, fun hescapes => ?_⟩ Iff.rfl
      cases hescapes with
      | longNumber _ hnumber => exact hnumber
  | statusless => exact .astray .statusless id
  | rejected status =>
    rw [parseReply]
    by_cases hstatus : Text.IsShort status
    · rw [Text.integer_of_isShort hstatus]
      exact .settled (fun | .longStatus hlong => hlong hstatus) id (.refused _)
    · rw [Text.integer_of_not_isShort hstatus]
      exact .astray (.longStatus hstatus) id
  | _ => exact .settled nofun id (.refused _)

theorem checkUrl_eq (url : String) : checkUrl url =
    if !bracketsHold (hostOf (urlParts url).2) then Result.fault .malformed
    else if (hostOf (urlParts url).2).any fun c => disguisedDelimiters.contains c.toNat then
      Result.fault .malformed
    else if (urlParts url).1.isEmpty || (hostOf (urlParts url).2).isEmpty then
      throw (.loading (.badUrl url)) else .ok () := rfl

theorem checkUrl_cases (url : String) :
    IsMisshapen url ∧ checkUrl url = Result.fault .malformed ∨
      ¬ IsMisshapen url ∧ (¬ IsComplete url ∧ checkUrl url = .error (.loading (.badUrl url)) ∨
        IsComplete url ∧ checkUrl url = .ok ()) := by
  rw [checkUrl_eq]
  split_ifs with hbrackets hdisguised hincomplete
  · exact .inl ⟨.inl (by simpa using hbrackets), rfl⟩
  · exact .inl ⟨.inr (by simpa using hdisguised), rfl⟩
  all_goals
    have hshape : ¬ IsMisshapen url := by
      simpa [IsMisshapen] using ⟨by simpa using hbrackets, by simpa using hdisguised⟩
  · refine .inr ⟨hshape, .inl ⟨fun hcomplete => ?_, rfl⟩⟩
    simp [hcomplete.1, hcomplete.2] at hincomplete
  · exact .inr ⟨hshape, .inr ⟨by simpa [IsComplete] using hincomplete, rfl⟩⟩

theorem ends_ofUrl (fetch : String → Reply) (url : String) (limit : Value) :
    Ends (UrlEscapes fetch url) False (ofUrl fetch url limit).result := by
  unfold ofUrl
  rcases checkUrl_cases url with ⟨hshape, hcheck⟩ | ⟨hshape, ⟨hopen, hcheck⟩ | ⟨hcomplete, hcheck⟩⟩
  · rw [hcheck]
    exact .astray (.misshapen hshape) id
  · rw [hcheck]
    refine .settled (fun hescapes => ?_) id (.refused _)
    cases hescapes with
    | misshapen hhost => exact hshape hhost
    | reply _ hcomplete _ => exact hopen hcomplete
  · rw [hcheck]
    dsimp only
    rw [result_finish]
    refine (ends_parseReply url (fetch url)).congr ⟨.reply hshape hcomplete, fun hescapes => ?_⟩
      Iff.rfl
    cases hescapes with
    | misshapen hhost => exact absurd hhost hshape
    | reply _ _ hreply => exact hreply

/-- What loading is not provided for, in the file or the URL that alone is asked for. -/
inductive Escapes (files : FileTree) (fetch : String → Reply) : String → String → Prop
  | file {file : String} (hfile : file ≠ "") (hescapes : FileEscapes files (.ofString file)) :
    Escapes files fetch file ""
  | url {url : String} (hurl : url ≠ "") (hescapes : UrlEscapes fetch url) :
    Escapes files fetch "" url

theorem ends_load (files : FileTree) (fetch : String → Reply) (file url : String) (limit : Value) :
    Ends (Escapes files fetch file url)
      (file ≠ "" ∧ url = "" ∧ IsAbsent files (.ofString file))
      (load files fetch file url limit).result := by
  have hempty (s : String) (h : s ≠ "") : s.isEmpty = false :=
    Bool.eq_false_iff.mpr fun hs => h (String.isEmpty_iff.mp hs)
  unfold load
  by_cases hfile : file = "" <;> by_cases hurl : url = ""
  · subst hfile hurl
    exact .settled (fun hescapes => by cases hescapes <;> contradiction) (fun h => h.1 rfl)
      (.refused .noSource)
  · subst hfile
    rw [hempty url hurl]
    refine (ends_ofUrl fetch url limit).congr ⟨.url hurl, fun hescapes => ?_⟩
      ⟨False.elim, fun h => h.1 rfl⟩
    cases hescapes with
    | file => contradiction
    | url _ hescapes => exact hescapes
  · subst hurl
    rw [hempty file hfile]
    refine (ends_ofFile files (.ofString file)).congr ⟨.file hfile, fun hescapes => ?_⟩
      ⟨fun habsent => ⟨hfile, rfl, habsent⟩, fun h => h.2.2⟩
    cases hescapes with
    | file _ hescapes => exact hescapes
    | url => contradiction
  · rw [hempty file hfile, hempty url hurl]
    exact .settled (fun hescapes => by cases hescapes <;> contradiction) (fun h => hurl h.2.1)
      (.refused .twoSources)

/-- Loading ends with a description, with an error of its own or with the report of a missing file
just if nothing is met that it is not provided for; and a missing file is reported just if a file
alone is asked for and it is not there. -/
theorem load_declared_iff (files : FileTree) (fetch : String → Reply) (file url : String)
    (limit : Value) :
    ((IsSettled (load files fetch file url limit).result ∨
        ∃ path, (load files fetch file url limit).result = .error (.fileNotFound path)) ↔
      ¬ Escapes files fetch file url) ∧
    ((∃ path, (load files fetch file url limit).result = .error (.fileNotFound path)) ↔
      file ≠ "" ∧ url = "" ∧ IsAbsent files (.ofString file)) :=
  ⟨(ends_load files fetch file url limit).declared_iff,
    (ends_load files fetch file url limit).missing_iff⟩

section

variable (files : FileTree) (fetch : String → Reply)

/-- Brackets without an address in them. -/
theorem load_misshapen :
    (load files fetch "" "http://[" .null).result = Result.fault .malformed := rfl

/-- A request that failed without a response. -/
theorem load_statusless :
    (load files (fun _ => .statusless) "" "http://h" .null).result = Result.fault .memberless := rfl

/-- A file that holds a single byte, which is no text. -/
theorem load_undecodable :
    (load ⟨[(["a.json"], .file ⟨#[0xFF]⟩)]⟩ fetch "a.json" "" .null).result =
      Result.fault .undecodable := rfl

theorem load_of_refuses {file : String} (hfile : file ≠ "")
    (h : files.Refuses (.ofString file)) (limit : Value) :
    (load files fetch file "" limit).result = Result.fault .refused := by
  rw [load, Bool.eq_false_iff.mpr (mt String.isEmpty_iff.mp hfile)]
  change (ofFile files (.ofString file)).result = _
  rw [ofFile, FileTree.has_of_refuses h]
  rfl

/-- A name of 256 letters. -/
theorem load_longName : (load files fetch (Text.repeated "a" 256) "" .null).result =
    Result.fault .refused := by
  have hsize : (Text.repeated "a" 256).utf8ByteSize = 256 := Text.utf8ByteSize_repeated "a" 256
  refine load_of_refuses files fetch (fun hempty => ?_) (FileTree.refuses_longName
    (Text.not_mem_repeated (by decide) _) (Text.not_mem_repeated (by decide) _) (by
      rw [hsize]
      decide)) .null
  rw [hempty] at hsize
  cases hsize

/-- A path of 2049 names, each of one letter. -/
theorem load_longPath : (load files fetch (Path.deep 2049) "" .null).result =
    Result.fault .refused :=
  load_of_refuses files fetch (Path.deep_ne_empty (by decide)) (FileTree.refuses_deep (by decide))
    .null

end

end Componentry.Loading
