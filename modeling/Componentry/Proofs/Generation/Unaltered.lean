import Componentry.Proofs.Component.Typed
import Componentry.Proofs.Generation.Commented
import Componentry.Proofs.Generation.Enclosed
import Componentry.Proofs.Generation.History
import Componentry.Proofs.Script.Tidied

/-!
# What formatting leaves alone

The printed declaration of a typed document is tidy, and so is the frame around it. So generated
code holds it as it was printed, whatever is formatted in front of it; only the lines may be ended
in another way.
-/

namespace Componentry

open Template (Frame FillsFrames)

open Text (IsTidy Leads isBlank trimEnd)

namespace Formatting

theorem ended_lineFeed {ls : List (List Char)} (h : ls ≠ []) :
    ended ['\n'] ls = Text.unlines ls ++ ['\n'] := by
  induction ls with
  | nil => exact absurd rfl h
  | cons l ls ih =>
    cases ls with
    | nil => rfl
    | cons m ls =>
      rw [ended, ih (List.cons_ne_nil m ls), Text.unlines_cons (List.cons_ne_nil m ls)]
      · simp
      · exact List.cons_ne_nil m ls

/-- Formatting leaves a tidy text alone and ends its last line. -/
theorem ended_lines_of_isTidy {cs : List Char} (h : IsTidy cs) :
    ended ['\n'] (lines cs) = cs ++ ['\n'] := by
  have hne : Text.lines cs ≠ [] := Text.splitAt_ne_nil '\n' cs
  rw [lines_of_isTidy h, ended_lineFeed hne, Text.unlines_lines]

/-- A text with a carriage return before each line feed. -/
def withReturns (cs : List Char) : List Char :=
  cs.flatMap fun c => if c = '\n' then ['\r', '\n'] else [c]

theorem withReturns_of_not_mem {cs : List Char} (h : '\n' ∉ cs) : withReturns cs = cs := by
  induction cs with
  | nil => rfl
  | cons c cs ih =>
    obtain ⟨hc, hcs⟩ := List.ne_and_not_mem_of_not_mem_cons h
    rw [withReturns, List.flatMap_cons, if_neg hc.symm, ← withReturns, ih hcs,
      List.singleton_append]

theorem withReturns_append (cs ds : List Char) :
    withReturns (cs ++ ds) = withReturns cs ++ withReturns ds := List.flatMap_append

theorem ended_returns {ls : List (List Char)} (h : ∀ l ∈ ls, '\n' ∉ l) :
    ended ['\r', '\n'] ls = withReturns (ended ['\n'] ls) := by
  fun_induction ended ['\n'] ls with
  | case1 => rfl
  | case2 l =>
    rw [withReturns_append, withReturns_of_not_mem (h l List.mem_cons_self)]
    rfl
  | case3 l ls hne ih =>
    obtain ⟨hl, hls⟩ := List.forall_mem_cons.mp h
    rw [ended, ih hls, withReturns_append, withReturns_append, withReturns_of_not_mem hl]
    · rfl
    · exact hne

theorem not_mem_of_mem_lines {cs l : List Char} (h : l ∈ lines cs) : '\n' ∉ l := by
  by_cases hl : l = []
  · rw [hl]
    exact List.not_mem_nil
  · obtain ⟨m, hm, rfl⟩ := (mem_lines_iff hl cs).mp h
    obtain ⟨ws, hws, -⟩ := Text.exists_trimEnd_append m
    have hnot := Text.not_mem_of_mem_splitAt hm
    rw [hws] at hnot
    exact fun hmem => hnot (List.mem_append_left ws hmem)

/-- How lines are ended is all that a line ending changes. -/
theorem format_returns (code : String) :
    (format "\r\n" code).toList = withReturns (format "\n" code).toList := by
  have hreturns : "\r\n".toList = ['\r', '\n'] := rfl
  have hlineFeed : "\n".toList = ['\n'] := rfl
  rw [format, format, hreturns, hlineFeed, String.toList_ofList, String.toList_ofList]
  exact ended_returns fun l hl => not_mem_of_mem_lines hl

/-- Tidy code below other code stays as it is. -/
theorem ended_lines_behind {rest r : List Char} {c : Char} {rs : List (List Char)}
    (hc : isBlank c = false) (hr : r ≠ []) (hrest : (Text.lines rest).map trimEnd = r :: rs)
    (htidy : IsTidy rest) (cs : List Char) :
    ∃ above, ended ['\n'] (lines (cs ++ [c] ++ '\n' :: rest)) =
      above ++ '\n' :: (rest ++ ['\n']) := by
  obtain ⟨above, habove⟩ := exists_ended_eq ['\n'] (lines (cs ++ [c]))
  refine ⟨above, ?_⟩
  rw [ended_lines_lineFeed hc hr hrest, habove, ended_lines_of_isTidy htidy, List.append_assoc]
  rfl

end Formatting

theorem isTidy_fill {script : String} (h : Script.Ends Text.solidly script) :
    IsTidy (Frame.markup.fill none script).toList := by
  have hopening : Script.Ends Text.solidly "<script>" := .of_not_blank (by decide) (by decide)
  have hclosing : Script.Ends Text.solidly "</script>" := .of_not_blank (by decide) (by decide)
  have hline : Leads Text.solidly ['\n'] Text.anywhere :=
    Text.leads_lineEnd.weaken fun _ _ => trivial
  have hfill : (Frame.markup.fill none script).toList =
      "<script>".toList ++ ['\n'] ++ script.toList ++ ['\n'] ++ "</script>".toList := by
    simp [toList_fill_markup]
  rw [hfill]
  exact Text.isTidy_of_leads (((((Leads.append hopening hline).append h).append hline).append
    hclosing))

/-- The printed declaration of a typed document. -/
theorem Document.IsTyped.ends_script [Machine] {d : Document} (h : d.IsTyped) {s : Settings}
    {n : Node} {v : Value} (hn : d.declaration.result = .ok n)
    (hv : Script.print s.style n = .ok v) :
    ∃ script, v = .str script ∧ Script.Ends Text.solidly script := by
  obtain ⟨ms, script, rfl, rfl, hroomy, hassembled⟩ := h.printed hn hv
  obtain ⟨text, htext, hends⟩ := hassembled.ends_declaration s.readable_roomy
    s.lineFeed_not_mem_unit (fun _ hv => hv) (fun k hk => (Bool.and_eq_true_iff.mp hk).1)
  cases htext.symm.trans hroomy
  exact ⟨_, rfl, hends⟩

/-- A script as generated code holds it: a plain one as it is, another one in its element. -/
def Settings.enclosing (s : Settings) (script : String) : String :=
  if s.plainScript then script ++ "\n" else "<script>\n" ++ script ++ "\n</script>\n"

namespace Generator

section

variable {s : Settings} {script : String}

theorem format_of_isTidy {code : String} (h : IsTidy code.toList) :
    Formatting.format "\n" code = code ++ "\n" := by
  rw [← String.toList_inj, Formatting.format, String.toList_ofList, String.toList_append]
  exact Formatting.ended_lines_of_isTidy h

theorem format_fill_bare (s : Settings) (hends : Script.Ends Text.solidly script) :
    Formatting.format "\n" (s.frame.fill none script) = s.enclosing script := by
  rw [Settings.frame, Settings.enclosing]
  split_ifs
  · have hbare : Frame.plain.fill none script = script := by simp [Frame.fill, Frame.plain]
    rw [hbare, format_of_isTidy (Text.isTidy_of_leads hends)]
  · rw [format_of_isTidy (isTidy_fill hends)]
    simp [Frame.fill, Frame.markup, String.append_assoc]

/-- Whatever the header is, a tidy script stands below it as it is. -/
theorem exists_format_fill (s : Settings) (name : String) {d : Document} {style : Script.Style}
    {n : Node} (hn : d.declaration.result = .ok n)
    (hv : Script.print style n = .ok (.str script)) (hends : Script.Ends Text.solidly script) :
    ∃ above, Formatting.format "\n" (s.frame.fill (some (header name)) script) =
      above ++ "\n" ++ s.enclosing script := by
  have hlineFeed : "\n".toList = ['\n'] := rfl
  rw [Settings.frame, Settings.enclosing]
  split_ifs
  · obtain ⟨text, l, ls, heq, htrimmed⟩ := trimmed_script hn hv
    cases heq
    obtain ⟨cs, hcs⟩ := exists_header_append name
    obtain ⟨before, hbefore⟩ := Template.exists_comment_append hcs (by decide : isBlank '.' = false)
    obtain ⟨above, habove⟩ := Formatting.ended_lines_behind (by decide : isBlank '.' = false)
      (List.append_ne_nil_of_left_ne_nil (by decide) l) htrimmed (Text.isTidy_of_leads hends) before
    refine ⟨String.ofList above, ?_⟩
    rw [fill_plain_header, ← String.toList_inj, Formatting.format, String.toList_ofList, hlineFeed]
    simpa [hbefore] using habove
  · obtain ⟨ls, htrimmed⟩ := trimmed_fill script
    obtain ⟨above, habove⟩ := Formatting.ended_lines_behind (by decide : isBlank '>' = false)
      (by decide) htrimmed (isTidy_fill hends)
      ("<!-- Generated from UIDL component".toList ++ ' ' :: (name.toList ++ '.' ::
        (" Do not edit by hand.".toList ++ [' ', '-', '-'])))
    refine ⟨String.ofList above, ?_⟩
    rw [← String.toList_inj, Formatting.format, String.toList_ofList, toList_fill_header,
      hlineFeed]
    simpa [commentEnd, toList_fill_markup] using habove

end

/-- Nothing that is generated depends on how lines are ended later. -/
theorem generate_put_lineEnding [Machine] [Template.Renderer] (s : Settings) (v : Value)
    (files : FileTree) (d : Document) :
    ((ofSettings (s.put .lineEnding v)).generate files d).1 =
      ((ofSettings s).generate files d).1 := by
  rw [generate_fst, generate_fst]
  simp only [frame_fst]
  rfl

end Generator

/-- Templates and formatting leave a generated script alone. Where lines are ended by line feeds,
the code is the printed declaration in its frame and nothing else, or that behind the lines of a
header, whatever name the header has. Where they are ended by a carriage return and a line feed, the
code is that with line feeds, with a carriage return before each of them. -/
theorem Document.IsTyped.code_encloses [Machine] [Template.Renderer] (hfills : FillsFrames)
    {d : Document} (h : d.IsTyped) {s : Settings} {files : FileTree}
    (hframes : s.UsesFrames files) {r : Report}
    (hr : ((Generator.ofSettings s).report files d).1 = .ok (.ok r)) :
    ∃ n script, d.declaration.result = .ok n ∧ Script.print s.style n = .ok (.str script) ∧
      (s.value .lineEnding = .str "\n" →
        ((s.value .addComments).truthy = false → r.code = s.enclosing script) ∧
        ((s.value .addComments).truthy = true →
          ∃ above, r.code = above ++ "\n" ++ s.enclosing script)) ∧
      (s.value .lineEnding = .str "\r\n" →
        ∃ r' : Report, ((Generator.ofSettings (s.put .lineEnding (.str "\n"))).report files d).1 =
            .ok (.ok r') ∧ r.code.toList = Formatting.withReturns r'.code.toList) := by
  obtain ⟨code, hcode, hformat⟩ := Generator.report_ok_iff.mp ⟨r, hr, rfl⟩
  have hrcode : ∀ ending, s.value .lineEnding = .str ending →
      r.code = Formatting.format ending code := by
    intro ending hvalue
    rw [Generator.format, Generator.ofSettings, hvalue] at hformat
    exact (Except.ok.inj hformat).symm
  obtain ⟨n, v, script, header, hn, hv, hscript, hheader, hfill⟩ :=
    Generator.code_framed hfills hframes hcode
  obtain ⟨text, rfl, hends⟩ := h.ends_script hn hv
  obtain rfl : text = script := Except.ok.inj hscript
  obtain ⟨name, hname⟩ := h.name
  rw [hname, Generator.headerFor_str] at hheader
  rw [← Except.ok.inj hheader] at hfill
  refine ⟨n, text, hn, hv, fun hvalue => ⟨fun hcomments => ?_, fun hcomments => ?_⟩,
    fun hvalue => ?_⟩
  · rw [hrcode _ hvalue, hfill, hcomments, if_neg Bool.false_ne_true]
    exact Generator.format_fill_bare s hends
  · rw [hrcode _ hvalue, hfill, hcomments, if_pos rfl]
    exact Generator.exists_format_fill s name hn hv hends
  · rw [← Generator.generate_put_lineEnding s (.str "\n")] at hcode
    obtain ⟨r', hr', hcode'⟩ := Generator.report_ok_iff.mpr ⟨code, hcode, rfl⟩
    refine ⟨r', hr', ?_⟩
    rw [hrcode _ hvalue, hcode']
    exact Formatting.format_returns code

section

open Componentry.Program

/-- A switch whose field has a line feed behind its name, which leaves an empty line in the
script. -/
def switch : Document where
  component := ⟨.str "Switch\nboard", [], [(.str "on\n", .bool false)]⟩
  dependencies := []
  handlers := [(.str "press", [.stateChange (.str "on\n") (.str "$toggle")])]

theorem isTyped_switch : switch.IsTyped where
  name := ⟨_, rfl⟩
  props := ⟨[], rfl, List.nodup_nil, nofun⟩
  defaults := nofun
  state := .map ⟨["on\n"], rfl, by decide, fun _ _ => trivial⟩ (by simpa [switch] using .bool false)
  handlers := by
    refine ⟨⟨["press"], rfl, by decide, fun _ _ => trivial⟩, ?_⟩
    simpa [switch] using .stateChange trivial (.str _)

theorem code_encloses_switch : ∃ r,
    ((Generator.ofSettings Settings.default).report default switch).1 = .ok (.ok r) ∧
      ∃ n script above, switch.declaration.result = .ok n ∧
        Script.print Settings.default.style n = .ok (.str script) ∧
        r.code = above ++ "\n" ++ ("<script>\n" ++ script ++ "\n</script>\n") := by
  have hfills := Program.Template.fillsFrames
  have hframes : Settings.default.UsesFrames default := Settings.usesFrames rfl default
  have hformatted : ∃ code, ((Generator.ofSettings Settings.default).generate default switch).1 =
      .ok code ∧ (Generator.ofSettings Settings.default).format code =
        .ok (Formatting.format "\n" code) := by
    rw [Generator.generate_framed hfills hframes]
    exact ⟨_, rfl, rfl⟩
  obtain ⟨code, hcode⟩ := hformatted
  obtain ⟨r, hr, -⟩ := Generator.report_ok_iff.mpr ⟨code, hcode⟩
  obtain ⟨n, script, hn, hv, hlineFeed, -⟩ := isTyped_switch.code_encloses hfills hframes hr
  obtain ⟨above, habove⟩ := (hlineFeed rfl).2 rfl
  exact ⟨r, hr, n, script, above, hn, hv, habove⟩

end

end Componentry
