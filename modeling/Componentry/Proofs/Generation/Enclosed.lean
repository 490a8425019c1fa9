import Componentry.Program.Machine
import Componentry.Proofs.Component.Typed
import Componentry.Proofs.Generation.Formatted
import Componentry.Proofs.Generation.Produced
import Componentry.Proofs.Template.Framed

/-!
# What keeps a component inside its frame

The frame of a file with markup and script puts a header into a comment and a script into an
element. The comment ends at the first `-->` and the element at the first `</script`, whatever they
stand in. Neither is escaped, so a generated file has the parts that the frame is meant to give it
just if no text of the component holds the one and its name does not hold the other.
-/

namespace Componentry

open Template (Frame FillsFrames)

open Text (occurrences behind? IsMark isBlank)

def commentEnd : List Char := ['-', '-', '>']

theorem isMark_closingTag : IsMark closingTag := ⟨closingTag_ne_nil, by decide⟩

theorem isMark_commentEnd : IsMark commentEnd := ⟨List.cons_ne_nil _ _, by decide⟩

section

variable {mark : List Char}

theorem toList_fill_markup (script : String) : (Frame.markup.fill none script).toList =
    "<script>".toList ++ '\n' :: (script.toList ++ '\n' :: "</script>".toList) := by
  simp [Frame.fill, Frame.markup]

theorem occurrences_fill (h : IsMark mark) (script : String) :
    occurrences mark (Frame.markup.fill none script).toList =
      occurrences mark "<script>".toList +
        (occurrences mark script.toList + occurrences mark "</script>".toList) := by
  have hline := h.not_mem (c := '\n') (by decide)
  rw [toList_fill_markup, Text.occurrences_append h.ne_nil hline,
    Text.occurrences_append h.ne_nil hline]

theorem toList_fill_header (name script : String) :
    (Frame.markup.fill (some (Generator.header name)) script).toList =
      "<!-- Generated from UIDL component".toList ++ ' ' :: (name.toList ++ '.' ::
        (" Do not edit by hand.".toList ++ ' ' ::
          (commentEnd ++ '\n' :: (Frame.markup.fill none script).toList))) := by
  rw [Generator.header_eq]
  simp [Frame.fill, Frame.markup, commentEnd]

theorem occurrences_fill_header (h : IsMark mark) (hdot : '.'.toLower ∉ mark)
    (name script : String) :
    occurrences mark (Frame.markup.fill (some (Generator.header name)) script).toList =
      occurrences mark "<!-- Generated from UIDL component".toList + (occurrences mark name.toList +
        (occurrences mark " Do not edit by hand.".toList + (occurrences mark commentEnd +
          occurrences mark (Frame.markup.fill none script).toList))) := by
  have hline := h.not_mem (c := '\n') (by decide)
  have hspace := h.not_mem (c := ' ') (by decide)
  rw [toList_fill_header, Text.occurrences_append h.ne_nil hspace,
    Text.occurrences_append h.ne_nil hdot, Text.occurrences_append h.ne_nil hspace,
    Text.occurrences_append h.ne_nil hline]

end

/-- What lines can be ended with: any white space, as a line feed or a carriage return and one. -/
structure IsLineEnding (ending : String) : Prop where
  ne_nil : ending.toList ≠ []
  all_blank : Text.allBlank ending.toList = true

theorem IsLineEnding.blank {ending : String} (h : IsLineEnding ending) :
    ∀ c ∈ ending.toList, isBlank c = true := List.all_eq_true.mp h.all_blank

section

variable {ending : String}

/-- A formatted frame ends at its first closing tag just if it has no other. -/
theorem behind?_closingTag_iff (h : IsLineEnding ending) (header : Option String)
    (script : String) :
    behind? closingTag (Formatting.format ending (Frame.markup.fill header script)).toList =
        some ('>' :: ending.toList) ↔
      occurrences closingTag (Frame.markup.fill header script).toList = 1 := by
  obtain ⟨cs, hcs⟩ : ∃ cs, (Frame.markup.fill header script).toList =
      cs ++ (closingTag ++ ['>']) := by
    refine ⟨(header.elim "" fun h => "<!-- " ++ h ++ " -->\n").toList ++
      ("<script>\n".toList ++ (script.toList ++ ['\n'])), ?_⟩
    cases header <;> simp [Frame.fill, Frame.markup, closingTag]
  obtain ⟨before, hbefore⟩ := Formatting.ended_lines_append
    (by decide : '\n' ∉ closingTag) (by decide : isBlank '>' = false) ending.toList cs
  have hcode : (Formatting.format ending (Frame.markup.fill header script)).toList =
      before ++ (closingTag ++ '>' :: ending.toList) := by
    rw [Formatting.format, String.toList_ofList, hcs, hbefore]
    simp
  have hone : occurrences closingTag (closingTag ++ '>' :: ending.toList) = 1 := by
    have := isMark_closingTag.divided h.ne_nil h.blank (closingTag ++ ['>']) []
    rw [List.append_nil, List.append_assoc, List.singleton_append] at this
    rw [this]
    decide
  have hcount := Formatting.occurrences_format isMark_closingTag h.ne_nil h.blank
    (Frame.markup.fill header script)
  rw [← hcount, hcode, Text.behind?_eq_some_iff (by decide) closingTag_ne_nil, hone]

theorem trimmed_fill (script : String) :
    ∃ ls, (Text.lines (Frame.markup.fill none script).toList).map Text.trimEnd =
      "<script>".toList :: ls := by
  have hframed : (Frame.markup.fill none script).toList =
      "<script>".toList ++ '\n' :: (script ++ "\n</script>").toList := by
    simp [toList_fill_markup]
  refine ⟨(Text.lines (script ++ "\n</script>").toList).map Text.trimEnd, ?_⟩
  rw [hframed, Text.lines, Text.splitAt_append, Text.splitAt_of_not_mem (by decide),
    List.map_append, List.map_singleton, ← Text.lines]
  rfl

theorem exists_format_fill (ending script : String) :
    ∃ body, (Formatting.format ending (Frame.markup.fill none script)).toList =
      "<script>".toList ++ (ending.toList ++ body) := by
  obtain ⟨ls, hls⟩ := trimmed_fill script
  rw [Formatting.format, String.toList_ofList,
    Formatting.lines_eq (by decide) (show _ = [] ++ "<script>".toList :: ls from hls)]
  generalize Formatting.dropBlankEnd (Formatting.squeezed false ls) = ms
  by_cases hms : ms = []
  · subst hms
    exact ⟨[], by simp [Formatting.squeezed, Formatting.ended]⟩
  · refine ⟨Formatting.ended ending.toList ms, ?_⟩
    have hfirst : Formatting.ended ending.toList (["<script>".toList] ++ ms) = _ :=
      Formatting.ended_append hms _
    rw [Formatting.squeezed, List.nil_append, ← List.singleton_append, hfirst,
      List.flatMap_singleton, List.append_assoc]

/-- The header of a formatted frame ends at the first end of a comment just if the name of the
component has none. -/
theorem behind?_commentEnd_iff (h : IsLineEnding ending) (name script : String) :
    behind? commentEnd (Formatting.format ending
        (Frame.markup.fill (some (Generator.header name)) script)).toList =
        some (ending.toList ++
          (Formatting.format ending (Frame.markup.fill none script)).toList) ↔
      occurrences commentEnd name.toList = 0 := by
  obtain ⟨ls, hls⟩ := trimmed_fill script
  obtain ⟨before, hbefore⟩ := Formatting.ended_lines_break
    (by decide : '\n' ∉ ['-', '-']) (by decide : isBlank '>' = false) (by decide) hls ending.toList
    ("<!-- Generated from UIDL component".toList ++ ' ' :: (name.toList ++ '.' ::
        (" Do not edit by hand.".toList ++ [' '])))
  have hcode : (Formatting.format ending
        (Frame.markup.fill (some (Generator.header name)) script)).toList =
      before ++ (commentEnd ++ (ending.toList ++
        (Formatting.format ending (Frame.markup.fill none script)).toList)) := by
    rw [Formatting.format, Formatting.format, String.toList_ofList, String.toList_ofList,
      toList_fill_header]
    simpa [commentEnd] using hbefore
  have hcount := Formatting.occurrences_format isMark_commentEnd h.ne_nil h.blank
  rw [hcode, Text.behind?_eq_some_iff (by decide) isMark_commentEnd.ne_nil, ← hcode, hcount,
    occurrences_fill_header isMark_commentEnd (by decide),
    isMark_commentEnd.divided h.ne_nil h.blank, hcount]
  have hbefore : occurrences commentEnd "<!-- Generated from UIDL component".toList = 0 := by decide
  have hbehind : occurrences commentEnd " Do not edit by hand.".toList = 0 := by decide
  omega

theorem occurrences_framed_closingTag {script : String} {k : Nat} (h : Script.Brings script k) :
    occurrences closingTag (Frame.markup.fill none script).toList = k + 1 := by
  have hopening : occurrences closingTag "<script>".toList = 0 := by decide
  have hclosing : occurrences closingTag "</script>".toList = 1 := by decide
  rw [occurrences_fill isMark_closingTag, h.eq, hopening, hclosing]
  omega

/-- A formatted frame ends at its first closing tag just if the script in it, and the header if
there is one, bring none. -/
theorem occurrences_framed_eq_one_iff (commented : Bool) (name : String) {script : String} {k : Nat}
    (h : Script.Brings script k) (hname : occurrences closingTag name.toList ≤ k) :
    occurrences closingTag (Frame.markup.fill
      (if commented then some (Generator.header name) else none) script).toList = 1 ↔ k = 0 := by
  have hscript := occurrences_framed_closingTag h
  split_ifs
  · have hbefore : occurrences closingTag "<!-- Generated from UIDL component".toList = 0 := by
      decide
    have hbehind : occurrences closingTag " Do not edit by hand.".toList = 0 := by decide
    have hend : occurrences closingTag commentEnd = 0 := by decide
    rw [occurrences_fill_header isMark_closingTag (by decide), hscript, hbefore, hbehind, hend]
    omega
  · rw [hscript]
    omega

theorem Document.IsTyped.script [Machine] {d : Document} (h : d.IsTyped) {s : Settings} {n : Node}
    {v : Value} (hn : d.declaration.result = .ok n) (hv : Script.print s.style n = .ok v) :
    ∃ script name, v = .str script ∧ d.component.name = .str name ∧
      Script.Brings script (closingTags n.carried) ∧
      occurrences closingTag name.toList ≤ closingTags n.carried := by
  obtain ⟨name, hname⟩ := h.name
  obtain ⟨ms, script, rfl, rfl, hroomy, hassembled⟩ := h.printed hn hv
  have hreadable := s.readable_roomy
  obtain ⟨text, htext, hbrings⟩ := hassembled.brings hreadable (fun _ hv => hv)
    (fun k hk => (Bool.and_eq_true_iff.mp hk).1) 0
  cases (Script.print_declaration htext).symm.trans hroomy
  refine ⟨_, name, rfl, hname, (hbrings.behind (by decide)).before
    (Script.not_mem_of_isTerminator hreadable.terminator), ?_⟩
  rw [hname, Node.carried, Node.carried, closingTags_carriedByAll, List.map_cons, List.sum_cons]
  refine Nat.le_trans ?_ (Nat.le_add_right _ _)
  simp [Component.option, Node.carried, closingTags]

/-- What keeps a component inside its frame: the generated file ends at its first closing tag, the
one of the frame, just if no text in the declaration has one; and a header ends at the first end of
a comment, so that the element of the script comes next, just if the name of the component has
none. -/
theorem Document.IsTyped.enclosed_iff [Machine] [Template.Renderer] (hfills : FillsFrames)
    {d : Document} (h : d.IsTyped) {s : Settings}
    (hmarkup : s.plainScript = false) (hdirectory : (s.value .templateDir).truthy = false)
    {ending : String} (hvalue : s.value .lineEnding = .str ending) (hending : IsLineEnding ending)
    {files : FileTree} {r : Report}
    (hr : ((Generator.ofSettings s).report files d).1 = .ok (.ok r)) :
    ∃ n script name body, d.declaration.result = .ok n ∧
      Script.print s.style n = .ok (.str script) ∧ d.component.name = .str name ∧
      (Formatting.format ending (Frame.markup.fill none script)).toList =
        "<script>".toList ++ (ending.toList ++ body) ∧
      (occurrences closingTag r.code.toList = 1 ∧
          behind? closingTag r.code.toList = some ('>' :: ending.toList) ↔
        ∀ t ∈ n.carried, occurrences closingTag t.toList = 0) ∧
      ((s.value .addComments).truthy = true →
        (behind? commentEnd r.code.toList =
            some (ending.toList ++ ("<script>".toList ++ (ending.toList ++ body))) ↔
          occurrences commentEnd name.toList = 0)) := by
  obtain ⟨n, v, script, header, hn, hv, hscript, hheader, hcode⟩ :=
    Generator.report_framed hfills (Settings.usesFrames hdirectory files) hvalue hr
  obtain ⟨text, name, rfl, hname, hbrings, hle⟩ := h.script hn hv
  obtain rfl : text = script := Except.ok.inj hscript
  obtain ⟨body, hbody⟩ := exists_format_fill ending text
  rw [hname, Generator.headerFor_str] at hheader
  rw [← Except.ok.inj hheader, Settings.frame, hmarkup, if_neg Bool.false_ne_true] at hcode
  refine ⟨n, text, name, body, hn, hv, hname, hbody, ?_, fun hcomments => ?_⟩
  · rw [hcode, behind?_closingTag_iff hending,
      Formatting.occurrences_format isMark_closingTag hending.ne_nil hending.blank, and_self,
      occurrences_framed_eq_one_iff _ name hbrings hle, closingTags_eq_zero]
  · rw [hcode, if_pos hcomments, ← hbody]
    exact behind?_commentEnd_iff hending name text

section

open Componentry.Program

def page : Document :=
  ⟨⟨.str "Page", [], [(.str "text", .str "</script>")]⟩, [], []⟩

theorem isLineEnding_lineFeed : IsLineEnding "\n" := ⟨by decide, by decide⟩

theorem isTyped_page : page.IsTyped where
  name := ⟨_, rfl⟩
  props := ⟨[], rfl, List.nodup_nil, nofun⟩
  defaults := nofun
  state := .map ⟨["text"], rfl, by decide, fun _ _ => trivial⟩ (by simpa [page] using .str _)
  handlers := ⟨⟨[], rfl, List.nodup_nil, nofun⟩, nofun⟩

/-- The page is cut off at the closing tag in its state, but its header ends where it should. -/
theorem enclosed_iff_page : ∃ r,
    ((Generator.ofSettings Settings.default).report default page).1 = .ok (.ok r) ∧
      ¬ (occurrences closingTag r.code.toList = 1 ∧
        behind? closingTag r.code.toList = some ['>', '\n']) ∧
      ∃ body, behind? commentEnd r.code.toList = some ("\n<script>\n".toList ++ body) := by
  have hfills := Program.Template.fillsFrames
  have hformatted : ∃ code, ((Generator.ofSettings Settings.default).generate default page).1 =
      .ok code ∧ (Generator.ofSettings Settings.default).format code =
        .ok (Formatting.format "\n" code) := by
    rw [Generator.generate_framed hfills (Settings.usesFrames rfl default)]
    exact ⟨_, rfl, rfl⟩
  obtain ⟨code, hcode⟩ := hformatted
  obtain ⟨r, hr, -⟩ := Generator.report_ok_iff.mpr ⟨code, hcode⟩
  obtain ⟨n, script, name, body, hn, -, hname, -, htags, hheader⟩ :=
    isTyped_page.enclosed_iff hfills rfl rfl rfl isLineEnding_lineFeed hr
  refine ⟨r, hr, fun hone => ?_, body, (hheader rfl).mpr ?_⟩
  · have htext : "</script>" ∈ n.carried := by
      cases hn
      decide
    exact absurd (htags.mp hone _ htext) (by decide)
  · cases hname
    decide

end

end

end Componentry
