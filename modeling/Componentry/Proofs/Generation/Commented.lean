import Componentry.Program.Machine
import Componentry.Proofs.Generation.Formatted
import Componentry.Proofs.Generation.Produced
import Componentry.Proofs.Script.Lexeme
import Componentry.Proofs.Template.Framed

/-!
# The header of a plain script

The header of a plain script is made of comments: a marker is put in front of each of its lines.
Lines are ended by line feeds there, while a script also ends them at carriage returns and at the
two separators of Unicode. So a header is nothing but comments just if no line of it goes on behind
one of those, unless with white space or with a comment of its own.
-/

namespace Componentry

open Text (isBlank allBlank trimEnd)

namespace Script

/-- The lines of a text, ended where the script ends them. -/
def scriptLines (cs : List Char) : List (List Char) := cs.splitOnP endsLine

/-- A line that does nothing: it is white space, or it is a comment. -/
def IsRemark (l : List Char) : Prop := (∀ c ∈ l, isSpace c = true) ∨ ['/', '/'] <+: l

instance (l : List Char) : Decidable (IsRemark l) :=
  decidable_of_iff (l.all isSpace = true ∨ ['/', '/'] <+: l) (or_congr_left List.all_eq_true)

/-- A text of which no line does anything. -/
def Remarks (cs : List Char) : Prop := ∀ l ∈ scriptLines cs, IsRemark l

theorem isRemark_nil : IsRemark [] := Or.inl fun _ hc => nomatch hc

theorem remarks_nil : Remarks [] := by
  intro l hl
  rw [scriptLines, List.splitOnP_nil, List.mem_singleton] at hl
  rw [hl]
  exact isRemark_nil

theorem remarks_append {c : Char} (hc : endsLine c = true) (cs ds : List Char) :
    Remarks (cs ++ c :: ds) ↔ Remarks cs ∧ Remarks ds := by
  simp only [Remarks, scriptLines, List.splitOnP_append_cons cs ds hc, List.forall_mem_append]

/-- What ends lines divides a text into texts with lines of their own. -/
theorem remarks_divided {es : List Char} (hne : es ≠ []) (h : ∀ c ∈ es, endsLine c = true)
    (cs ds : List Char) : Remarks (cs ++ (es ++ ds)) ↔ Remarks cs ∧ Remarks ds := by
  induction es generalizing cs with
  | nil => exact absurd rfl hne
  | cons e es ih =>
    obtain ⟨he, hes⟩ := List.forall_mem_cons.mp h
    rw [List.cons_append, remarks_append he]
    by_cases hrest : es = []
    · rw [hrest, List.nil_append]
    · have hbehind := ih hrest hes []
      rw [List.nil_append] at hbehind
      rw [hbehind, and_iff_right remarks_nil]

/-- A line that begins as a comment is one, but what a script takes for further lines is not. -/
theorem remarks_comment (cs : List Char) :
    Remarks ("// ".toList ++ cs) ↔ ∀ p ∈ (scriptLines cs).tail, IsRemark p := by
  obtain ⟨p, ps, hcs⟩ := List.exists_cons_of_ne_nil (List.splitOnP_ne_nil endsLine cs)
  have hlines : scriptLines ("// ".toList ++ cs) = ('/' :: '/' :: ' ' :: p) :: ps := by
    have hslash : endsLine '/' = false := by decide
    have hspace : endsLine ' ' = false := by decide
    change List.splitOnP endsLine ('/' :: '/' :: ' ' :: cs) = _
    simp [List.splitOnP_cons_eq_if_modifyHead, hslash, hspace, hcs]
  have hremark : IsRemark ('/' :: '/' :: ' ' :: p) := Or.inr ⟨' ' :: p, rfl⟩
  rw [Remarks, hlines, scriptLines, hcs, List.forall_mem_cons, List.tail_cons,
    and_iff_right hremark]

end Script

open Script (endsLine scriptLines IsRemark Remarks)

namespace Template

/-- A line with a marker in front of it, unless it is blank. -/
def marked (l : List Char) : List Char := if allBlank l then l else "// ".toList ++ l

theorem toList_comment (s : String) :
    (comment "//" s).toList = Text.unlines ((Text.lines s.toList).map marked) := by
  have hmarked : ∀ l : List Char, (if allBlank l then String.ofList l
      else "//" ++ " " ++ String.ofList l) = String.ofList (marked l) := by
    intro l
    unfold marked
    split_ifs
    · rfl
    · rw [String.ofList_append]
      rfl
  rw [comment, ← Text.toList_join_lineFeed, List.map_map]
  exact congrArg (fun f => (Text.join "\n" ((Text.lines s.toList).map f)).toList)
    (funext hmarked)

theorem lines_comment (s : String) :
    Text.lines (comment "//" s).toList = (Text.lines s.toList).map marked := by
  rw [toList_comment]
  apply Text.lines_unlines
  · exact fun h => Text.splitAt_ne_nil '\n' s.toList (List.map_eq_nil_iff.mp h)
  · intro l hl
    obtain ⟨m, hm, rfl⟩ := List.mem_map.mp hl
    have hnot := Text.not_mem_of_mem_splitAt hm
    unfold marked
    split_ifs
    · exact hnot
    · rw [List.mem_append]
      exact not_or.mpr ⟨by decide, hnot⟩

theorem remarks_trimEnd_marked (l : List Char) :
    Remarks (trimEnd (marked l)) ↔ ∀ p ∈ (scriptLines (trimEnd l)).tail, IsRemark p := by
  unfold marked
  cases hblank : allBlank l with
  | true =>
    rw [if_pos rfl, Text.trimEnd_eq_nil hblank]
    exact iff_of_true Script.remarks_nil fun _ hp => nomatch hp
  | false =>
    rw [if_neg Bool.false_ne_true, Text.trimEnd_append_of_not_blank hblank, Script.remarks_comment]

/-- The comments of a text end with the end of the text, if that is not blank. -/
theorem exists_comment_append {s : String} {cs : List Char} {c : Char} (hs : s.toList = cs ++ [c])
    (hc : isBlank c = false) : ∃ before, (comment "//" s).toList = before ++ [c] := by
  have hline : '\n' ∉ [c] := by
    intro hmem
    rw [← List.mem_singleton.mp hmem] at hc
    exact absurd hc (by decide)
  obtain ⟨pieces, piece, hpieces⟩ := Text.splitAt_append_of_not_mem hline cs
  have hblank : allBlank (piece ++ [c]) = false := by simp [allBlank, hc]
  obtain ⟨front, hfront⟩ := Text.exists_unlines_append (pieces.map marked)
  refine ⟨front ++ ("// ".toList ++ piece), ?_⟩
  rw [toList_comment, hs, Text.lines, hpieces, List.map_append, List.map_singleton, hfront, marked,
    hblank, if_neg Bool.false_ne_true, List.append_assoc, List.append_assoc]

end Template

/-- What lines of a script can be ended with. -/
structure EndsLines (ending : String) : Prop where
  ne_nil : ending.toList ≠ []
  endsLine : ∀ c ∈ ending.toList, endsLine c = true

section

variable {ending : String}

theorem EndsLines.remarks_ended (h : EndsLines ending) (ls : List (List Char)) :
    Remarks (Formatting.ended ending.toList ls) ↔ ∀ l ∈ ls, Remarks l := by
  have hdivided := Script.remarks_divided h.ne_nil h.endsLine
  fun_induction Formatting.ended ending.toList ls with
  | case1 =>
    have hempty := hdivided [] []
    rw [List.nil_append, List.append_nil] at hempty
    rw [hempty]
    exact iff_of_true ⟨Script.remarks_nil, Script.remarks_nil⟩
      fun _ hl => absurd hl List.not_mem_nil
  | case2 l =>
    have hlast := hdivided l []
    rw [List.append_nil] at hlast
    rw [hlast, and_iff_left Script.remarks_nil, List.forall_mem_singleton]
  | case3 l ls _ ih =>
    rw [List.append_assoc, hdivided, List.forall_mem_cons]
    exact and_congr_right fun _ => ih

/-- Formatted comments are nothing but comments just if no line of their text goes on where a script
would begin a line of its own. -/
theorem EndsLines.remarks_format_comment (h : EndsLines ending) (s : String) :
    Remarks (Formatting.format ending (Template.comment "//" s)).toList ↔
      ∀ l ∈ Text.lines s.toList, ∀ p ∈ (scriptLines (trimEnd l)).tail, IsRemark p := by
  rw [Formatting.format, String.toList_ofList, h.remarks_ended]
  have htrimmed : (∀ l ∈ Formatting.lines (Template.comment "//" s).toList, Remarks l) ↔
      ∀ m ∈ Text.lines (Template.comment "//" s).toList, Remarks (trimEnd m) := by
    constructor
    · intro hall m hm
      by_cases hempty : trimEnd m = []
      · rw [hempty]
        exact Script.remarks_nil
      · exact hall _ ((Formatting.mem_lines_iff hempty _).mpr ⟨m, hm, rfl⟩)
    · intro hall l hl
      by_cases hempty : l = []
      · rw [hempty]
        exact Script.remarks_nil
      · obtain ⟨m, hm, rfl⟩ := (Formatting.mem_lines_iff hempty _).mp hl
        exact hall m hm
  rw [htrimmed, Template.lines_comment, List.forall_mem_map]
  exact forall₂_congr fun l _ => Template.remarks_trimEnd_marked l

/-- Ended lines divide a script: its lines before what follows them are remarks just if they are. -/
theorem EndsLines.exists_scriptLines_append (h : EndsLines ending) (ls : List (List Char))
    (cs : List Char) :
    ∃ before, scriptLines (Formatting.ended ending.toList ls ++ cs) = before ++ scriptLines cs ∧
      ((∀ l ∈ before, IsRemark l) ↔ Remarks (Formatting.ended ending.toList ls)) := by
  obtain ⟨front, hfront⟩ := Formatting.exists_ended_eq ending.toList ls
  obtain ⟨es, e, hes⟩ := (List.eq_nil_or_concat ending.toList).resolve_left h.ne_nil
  rw [List.concat_eq_append] at hes
  have he : Script.endsLine e = true :=
    h.endsLine e (hes ▸ List.mem_append_right es List.mem_cons_self)
  refine ⟨scriptLines (front ++ es), ?_, ?_⟩
  · have hsplit := List.splitOnP_append_cons (front ++ es) cs he
    rw [List.append_assoc] at hsplit
    rw [hfront, hes, List.append_assoc, List.append_assoc]
    exact hsplit
  · rw [hfront, hes, ← List.append_assoc, Script.remarks_append he,
      and_iff_left Script.remarks_nil]
    exact Iff.rfl

end

/-- A line of a text that only line feeds end is one line of a script as well. -/
theorem tail_scriptLines_eq_nil {cs l : List Char}
    (h : ∀ c ∈ cs, Script.endsLine c = true → c = '\n') (hl : l ∈ Text.lines cs) :
    (scriptLines (trimEnd l)).tail = [] := by
  have hline : ∀ c ∈ trimEnd l, Script.endsLine c = false := by
    intro c hc
    have hmem : c ∈ l := by
      obtain ⟨ws, hws, -⟩ := Text.exists_trimEnd_append l
      rw [hws]
      exact List.mem_append_left ws hc
    have hne : c ≠ '\n' := fun heq => Text.not_mem_of_mem_splitAt hl (heq ▸ hmem)
    rw [← Bool.not_eq_true]
    exact fun hends => hne (h c (Text.mem_of_mem_splitAt hl hmem) hends)
  rw [scriptLines, List.splitOnP_eq_singleton hline, List.tail_cons]

def declarationMark : List Char := "export default".toList

theorem exists_declaration_append {style : Script.Style} {n : Node} {v : Value}
    (h : Script.print style (.exportDefault n) = .ok v) :
    ∃ text cs, v = .str text ∧ text.toList = declarationMark ++ cs := by
  rw [Script.print, Script.printNode] at h
  obtain ⟨text, -, h⟩ := Result.bind_eq_ok.mp h
  cases h
  have hmark : "export default " = "export default" ++ " " := by decide
  refine ⟨_, (" " ++ (text ++ style.terminator)).toList, rfl, ?_⟩
  rw [String.append_assoc, hmark, String.append_assoc, String.toList_append]
  rfl

/-- Code that begins with a mark begins with it when it is formatted. -/
theorem exists_trimmed_append {mark : List Char} {c : Char} (hc : isBlank c = false)
    (hmark : '\n' ∉ mark ++ [c]) (cs : List Char) :
    ∃ l ls, (Text.lines (mark ++ [c] ++ cs)).map trimEnd = (mark ++ [c] ++ l) :: ls := by
  obtain ⟨p, ps, hcs⟩ := List.exists_cons_of_ne_nil (Text.splitAt_ne_nil '\n' cs)
  have hlines : Text.lines (mark ++ [c] ++ cs) = (mark ++ [c] ++ p) :: ps :=
    Text.splitAt_prepend hmark hcs
  rw [hlines, List.map_cons]
  cases hblank : allBlank p with
  | true => exact ⟨[], _, by rw [Text.trimEnd_append_of_blank hblank, Text.trimEnd_append hc,
      List.append_nil]⟩
  | false => exact ⟨trimEnd p, _, by rw [Text.trimEnd_append_of_not_blank hblank]⟩

namespace Generator

theorem exists_header_append (name : String) :
    ∃ cs, (header name).toList = cs ++ ['.'] := by
  have hdot : ". Do not edit by hand." = ". Do not edit by hand" ++ "." := by decide
  have hheader : header name =
      "Generated from UIDL component " ++ name ++ (". Do not edit by hand" ++ ".") :=
    congrArg ("Generated from UIDL component " ++ name ++ ·) hdot
  refine ⟨("Generated from UIDL component " ++ name ++ ". Do not edit by hand").toList, ?_⟩
  rw [hheader, ← String.append_assoc, String.toList_append]
  rfl

theorem lineFeed_of_mem_header {name : String}
    (h : ∀ c ∈ name.toList, Script.endsLine c = true → c = '\n') :
    ∀ c ∈ (header name).toList, Script.endsLine c = true → c = '\n' := by
  have hbefore : "Generated from UIDL component ".toList.any Script.endsLine = false := by decide
  have hbehind : ". Do not edit by hand.".toList.any Script.endsLine = false := by decide
  intro c hc hends
  rw [header_eq, String.toList_append, String.toList_append, List.mem_append, List.mem_append] at hc
  rcases hc with (hc | hc) | hc
  · exact absurd hends (List.any_eq_false.mp hbefore c hc)
  · exact h c hc hends
  · exact absurd hends (List.any_eq_false.mp hbehind c hc)

theorem fill_plain_header (name script : String) :
    Template.Frame.plain.fill (some (header name)) script =
      Template.comment "//" (header name) ++ "\n" ++ script := by
  simp [Template.Frame.fill, Template.Frame.plain]

theorem trimmed_script {d : Document} {style : Script.Style} {n : Node} {v : Value}
    (hn : d.declaration.result = .ok n) (hv : Script.print style n = .ok v) :
    ∃ text l ls, v = .str text ∧
      (Text.lines text.toList).map trimEnd = (declarationMark ++ l) :: ls := by
  rw [Document.declaration, Component.declaration, Recorded.result_bind] at hn
  obtain ⟨ms, -, hn⟩ := Result.bind_eq_ok.mp hn
  cases hn
  obtain ⟨text, cs, rfl, hcs⟩ := exists_declaration_append hv
  have hmark : declarationMark = "export defaul".toList ++ ['t'] := by decide
  obtain ⟨l, ls, hlines⟩ : ∃ l ls,
      (Text.lines ("export defaul".toList ++ ['t'] ++ cs)).map trimEnd =
        ("export defaul".toList ++ ['t'] ++ l) :: ls :=
    exists_trimmed_append (by decide) (by decide) cs
  exact ⟨text, l, ls, rfl, by rw [hcs, hmark, hlines]⟩

/-- Below its header, a script is formatted on its own. -/
theorem format_commented {script : String} {l : List Char} {ls : List (List Char)}
    (h : (Text.lines script.toList).map trimEnd = (declarationMark ++ l) :: ls)
    (ending name : String) :
    (Formatting.format ending (Template.comment "//" (header name) ++ "\n" ++
        script)).toList =
      Formatting.ended ending.toList
          (Formatting.lines (Template.comment "//" (header name)).toList) ++
        (Formatting.format ending script).toList := by
  obtain ⟨cs, hcs⟩ := exists_header_append name
  have hdot : isBlank '.' = false := by decide
  obtain ⟨before, hbefore⟩ := Template.exists_comment_append hcs hdot
  have hline : declarationMark ++ l ≠ [] := List.append_ne_nil_of_left_ne_nil (by decide) l
  have hbreak := Formatting.ended_lines_lineFeed hdot hline h ending.toList before
  rw [Formatting.format, Formatting.format, String.toList_ofList, String.toList_ofList,
    String.toList_append, String.toList_append, hbefore, ← hbreak]
  simp

theorem declarationMark_prefix {script : String} {l : List Char} {ls : List (List Char)}
    (h : (Text.lines script.toList).map trimEnd = (declarationMark ++ l) :: ls) (ending : String) :
    declarationMark <+: (Formatting.format ending script).toList := by
  have hline : declarationMark ++ l ≠ [] := List.append_ne_nil_of_left_ne_nil (by decide) l
  have hlines := Formatting.lines_eq hline (show _ = [] ++ (declarationMark ++ l) :: ls from h)
  rw [Formatting.format, String.toList_ofList, hlines, Formatting.squeezed, List.nil_append]
  cases Formatting.dropBlankEnd (Formatting.squeezed false ls) with
  | nil => exact ⟨l ++ ending.toList, by simp [Formatting.ended]⟩
  | cons m ms =>
    exact ⟨l ++ ending.toList ++ Formatting.ended ending.toList (m :: ms),
      by simp [Formatting.ended]⟩

/-- A plain script with comments is its header, in comments, and then the script. All lines before
the script are white space or comments just if no line of the header goes on, behind what ends a
line of a script but is not a line feed, with anything else; so they are if line feeds are all that
ends lines in the name. -/
theorem header_remarks_iff [Machine] [Template.Renderer] (hfills : Template.FillsFrames)
    {s : Settings} (hplain : s.plainScript = true)
    (hcomments : (s.value .addComments).truthy = true)
    (hdirectory : (s.value .templateDir).truthy = false) {ending : String}
    (hvalue : s.value .lineEnding = .str ending) (hending : EndsLines ending) {d : Document}
    {name : String} (hname : d.component.name = .str name) {files : FileTree} {r : Report}
    (hr : ((ofSettings s).report files d).1 = .ok (.ok r)) :
    ∃ before script, scriptLines r.code.toList = before ++ scriptLines script ∧
      declarationMark <+: script ∧
      (∃ n text, d.declaration.result = .ok n ∧ Script.print s.style n = .ok (.str text) ∧
        script = (Formatting.format ending text).toList) ∧
      ((∀ l ∈ before, IsRemark l) ↔
        ∀ l ∈ Text.lines (header name).toList,
          ∀ p ∈ (scriptLines (trimEnd l)).tail, IsRemark p) ∧
      ((∀ c ∈ name.toList, Script.endsLine c = true → c = '\n') → ∀ l ∈ before, IsRemark l) := by
  obtain ⟨n, v, script, above, hn, hv, hscript, habove, hcode⟩ :=
    report_framed hfills (Settings.usesFrames hdirectory files) hvalue hr
  obtain ⟨text, l, ls, rfl, hlines⟩ := trimmed_script hn hv
  obtain rfl : text = script := Except.ok.inj hscript
  rw [hname, headerFor_str, if_pos hcomments] at habove
  rw [← Except.ok.inj habove, Settings.frame, if_pos hplain, fill_plain_header] at hcode
  have hsplit := format_commented hlines ending name
  obtain ⟨before, hbefore, hremarks⟩ := hending.exists_scriptLines_append
    (Formatting.lines (Template.comment "//" (header name)).toList)
    (Formatting.format ending text).toList
  have hiff := hending.remarks_format_comment (header name)
  rw [Formatting.format, String.toList_ofList, ← hremarks] at hiff
  refine ⟨before, (Formatting.format ending text).toList, ?_, ?_, ⟨n, text, hn, hv, rfl⟩, hiff, ?_⟩
  · rw [hcode, hsplit]
    exact hbefore
  · exact declarationMark_prefix hlines ending
  · intro hfeeds
    apply hiff.mpr
    intro l hl p hp
    rw [tail_scriptLines_eq_nil (lineFeed_of_mem_header hfeeds) hl] at hp
    cases hp

section

open Componentry.Program

def scriptSettings : Settings := Settings.default.put .outputFormat (.str "js")

def returning : Document := ⟨⟨.str "Foo\rrun()", [], []⟩, [], []⟩

theorem endsLines_lineFeed : EndsLines "\n" := ⟨by decide, List.all_eq_true.mp (by decide)⟩

/-- A name with a carriage return goes on as a line of the script. -/
theorem header_remarks_iff_carriageReturn : ∃ r,
    ((ofSettings scriptSettings).report default returning).1 = .ok (.ok r) ∧
      ∃ before script, scriptLines r.code.toList = before ++ scriptLines script ∧
        declarationMark <+: script ∧ ¬ ∀ l ∈ before, IsRemark l := by
  have hfills := Program.Template.fillsFrames
  have hformatted : ∃ code, ((ofSettings scriptSettings).generate default returning).1 = .ok code ∧
      (ofSettings scriptSettings).format code = .ok (Formatting.format "\n" code) := by
    rw [generate_framed hfills (Settings.usesFrames rfl default)]
    exact ⟨_, rfl, rfl⟩
  obtain ⟨code, hcode⟩ := hformatted
  obtain ⟨r, hr, -⟩ := report_ok_iff.mpr ⟨code, hcode⟩
  obtain ⟨before, script, hlines, hscript, -, hiff, -⟩ :=
    header_remarks_iff hfills rfl rfl rfl rfl endsLines_lineFeed rfl hr
  refine ⟨r, hr, before, script, hlines, hscript, fun hremarks => ?_⟩
  have hgoesOn := hiff.mp hremarks (header "Foo\rrun()").toList (by decide)
    "run(). Do not edit by hand.".toList (by decide)
  exact absurd hgoesOn (by decide)

end

end Generator

end Componentry
