import Componentry.Proofs.Script.Sketch
import Componentry.Proofs.Script.Tidied
import Componentry.Proofs.Script.Tree

/-!
# Sketches of syntax

A typed node is printed as one sketch that is laid out, whatever the margins and the level are. Line
ends are all in the open in this sketch but for those that its names and operators bring along, and
those behind the bare names of literal keys. A node that is printed has numbers that can be written.
-/

namespace Componentry.Script

open Node (Everywhere KeepsKey StaysOnLine HasNumeral)

def Style.under (style : Style) (margin : Nat → Result String) : Style :=
  { style with margin := margin }

/-- What a sketch shows of a node. -/
structure Sketch.Shows (k : Sketch) (n : Node) : Prop where
  solid : n.Everywhere StaysOnLine → (k.IsSolid ↔ n.Everywhere KeepsKey)
  numerals : n.Everywhere HasNumeral

/-- A node is printed as a sketch is laid out. -/
structure Drawn (style : Style) (n : Node) (k : Sketch) : Prop extends k.Shows n where
  print (margin : Nat → Result String) (level : Nat) :
    printNode (style.under margin) level n = Value.str <$> Sketch.layOut margin level k

/-- A member is printed as a sketch is laid out. -/
structure MemberDrawn (style : Style) (n : Node) (k : Sketch) : Prop extends k.Shows n where
  print (margin : Nat → Result String) (level : Nat) :
    printMember (style.under margin) level n = Sketch.layOut margin level k

variable {style : Style}

/-- A node that is no member shows what its children show. -/
theorem Sketch.Shows.of_children {n : Node} {k : Sketch}
    (hkey : n.memberKey = Result.fault .memberless) (hnumeral : n.HasNumeral)
    (hnumerals : ∀ m ∈ n.children, m.Everywhere HasNumeral)
    (hsolid : n.StaysOnLine → (∀ m ∈ n.children, m.Everywhere StaysOnLine) →
      (k.IsSolid ↔ ∀ m ∈ n.children, m.Everywhere KeepsKey)) : k.Shows n where
  solid h := by rw [Node.everywhere_keepsKey_iff hkey, hsolid h.here h.children]
  numerals := .intro hnumeral hnumerals

theorem solid_of_forall₂ {ns : List Node} {ks : List Sketch}
    (h : List.Forall₂ (fun n k => Sketch.Shows k n) ns ks)
    (hns : ∀ n ∈ ns, n.Everywhere StaysOnLine) :
    (∀ k ∈ ks, Sketch.IsSolid k) ↔ ∀ n ∈ ns, n.Everywhere KeepsKey := by
  induction h with
  | nil => simp
  | cons hn _ ih =>
    obtain ⟨hhere, hrest⟩ := List.forall_mem_cons.mp hns
    rw [List.forall_mem_cons, List.forall_mem_cons, hn.solid hhere, ih hrest]

theorem numerals_of_forall₂ {ns : List Node} {ks : List Sketch}
    (h : List.Forall₂ (fun n k => Sketch.Shows k n) ns ks) :
    ∀ n ∈ ns, n.Everywhere HasNumeral := by
  induction h with
  | nil => exact nofun
  | cons hn _ ih => exact List.forall_mem_cons.mpr ⟨hn.numerals, ih⟩

theorem shows_of_drawn {ns : List Node} {ks : List Sketch} (h : List.Forall₂ (Drawn style) ns ks) :
    List.Forall₂ (fun n k => Sketch.Shows k n) ns ks := h.imp fun _ _ hn => hn.toShows

section

variable {margin : Nat → Result String} {level : Nat}

theorem printNodes_drawn {ns : List Node} {ks : List Sketch}
    (h : List.Forall₂ (Drawn style) ns ks) :
    printNodes (style.under margin) level ns =
      List.map .str <$> ks.mapM (Sketch.layOut margin level) := by
  rw [printNodes_eq_mapM]
  exact Result.mapM_of_forall₂ (h.imp fun _ _ hn => hn.print margin level)

theorem printItems_drawn {ns : List Node} {ks : List Sketch}
    (h : List.Forall₂ (Drawn style) ns ks) :
    printItems (style.under margin) level ns = ks.mapM (Sketch.layOut margin level) := by
  induction h with
  | nil => rfl
  | @cons n k ns ks hn _ ih =>
    rw [printItems, hn.print, ih, List.mapM_cons]
    cases Sketch.layOut margin level k <;> rfl

theorem printMembers_drawn {ms : List Node} {ks : List Sketch}
    (h : List.Forall₂ (MemberDrawn style) ms ks) :
    printMembers (style.under margin) level ms = ks.mapM (Sketch.layOut margin level) := by
  have hmembers := Result.mapM_of_forall₂ (t := id)
    (h.imp fun _ _ hm => (hm.print margin level).trans (id_map _).symm)
  rw [printMembers_eq_mapM, hmembers, List.map_id_fun, id_map]

end

theorem drawn_leaf {n : Node} {s : String} (hchildren : n.children = [])
    (hkey : n.memberKey = Result.fault .memberless) (hs : n.StaysOnLine → '\n' ∉ s.toList)
    (hnumeral : n.HasNumeral)
    (hprint : ∀ margin level, printNode (style.under margin) level n = .ok (.str s)) :
    Drawn style n [.text s] where
  print margin level := by rw [hprint, Sketch.layOut_text]; rfl
  toShows := by
    refine .of_children hkey hnumeral (hchildren ▸ nofun) fun hline _ => ?_
    rw [hchildren]
    simpa using hs hline

theorem lineFeed_not_mem_quoted {quote : Char} (hq : IsQuote quote) (cs : List Char) :
    '\n' ∉ quoted quote cs :=
  fun h => absurd (isOnLine_of_mem_quoted hq h) (by decide)

theorem lineFeed_not_mem_numeral {v : Value} (h : IsNumber v ∨ ∃ b, v = .bool b) {s : String}
    (hs : numeral v = .ok s) : '\n' ∉ s.toList := by
  rcases h with h | ⟨b, rfl⟩
  · exact (isNumeral_numeral h hs).not_mem (by decide)
  · cases b <;> cases hs <;> decide

theorem drawn_identifier (k : String) : Drawn style (.identifier (.str k)) [.text k] :=
  drawn_leaf rfl rfl (fun h => h k rfl) trivial fun _ _ => rfl

theorem drawn_stringLiteral (hq : IsQuote style.quote) (s : String) :
    Drawn style (.stringLiteral (.str s)) [.text (String.ofList (quoted style.quote s.toList))] :=
  drawn_leaf rfl rfl
    (fun _ => by rw [String.toList_ofList]; exact lineFeed_not_mem_quoted hq s.toList) trivial
    fun _ _ => rfl

theorem drawn_numericLiteral {v : Value} (h : (Node.numericLiteral v).IsTyped) {s : String}
    (hs : numeral v = .ok s) : Drawn style (.numericLiteral v) [.text s] :=
  drawn_leaf rfl rfl (fun _ => lineFeed_not_mem_numeral h hs) ⟨s, hs⟩
    fun _ _ => printNode_numeral hs

/-- A node that writes one part between two texts. -/
theorem drawn_around {n m : Node} {k : Sketch} (before behind : String)
    (hchildren : n.children = [m]) (hkey : n.memberKey = Result.fault .memberless)
    (hnumeral : n.HasNumeral) (hbefore : '\n' ∉ before.toList) (hbehind : '\n' ∉ behind.toList)
    (hm : Drawn style m k)
    (hprint : ∀ {margin level} {r : Result String},
      printNode (style.under margin) level m = Value.str <$> r →
        printNode (style.under margin) level n = (fun s => .str (before ++ s ++ behind)) <$> r) :
    Drawn style n (.text before :: (k ++ [.text behind])) where
  print margin level := by
    rw [hprint (hm.print margin level), Sketch.layOut, Sketch.layOut_append]
    cases Sketch.layOut margin level k <;> simp [String.append_assoc]
  toShows := by
    refine .of_children hkey hnumeral ?_ ?_ <;> rw [hchildren]
    · exact List.forall_mem_singleton.mpr hm.numerals
    · intro _ hline
      simp [hbefore, hbehind, hm.solid (List.forall_mem_singleton.mp hline)]

section

variable (hterminator : '\n' ∉ style.terminator.toList) {m : Node} {k : Sketch}
  (hm : Drawn style m k)

include hterminator hm

theorem drawn_expressionStatement : ∃ l, Drawn style (.expressionStatement m) l := by
  refine ⟨_, drawn_around "" style.terminator rfl rfl trivial (by decide) hterminator hm ?_⟩
  intro margin level r h
  rw [printNode, h]
  cases r with
  | error e => rfl
  | ok s => simp [Value.text, Style.under]

theorem drawn_returnStatement : ∃ l, Drawn style (.returnStatement (some m)) l := by
  refine ⟨_, drawn_around "return " style.terminator rfl rfl trivial (by decide) hterminator hm ?_⟩
  intro margin level r h
  rw [printNode, h]
  cases r <;> rfl

theorem drawn_exportDefault : ∃ l, Drawn style (.exportDefault m) l := by
  refine ⟨_,
    drawn_around "export default " style.terminator rfl rfl trivial (by decide) hterminator hm ?_⟩
  intro margin level r h
  rw [printNode, h]
  cases r <;> rfl

end

theorem drawn_unaryExpression (operator : String) {m : Node} {k : Sketch} (hm : Drawn style m k) :
    Drawn style (.unaryExpression (.str operator) m)
      (.text (operator ++ if Text.isWord operator then " " else "") ::
        Sketch.wrapped (wrapsOperand m) k) where
  print margin level := by
    rw [printNode, hm.print, Sketch.layOut, Sketch.layOut_wrapped]
    cases Sketch.layOut margin level k <;> rfl
  toShows := by
    refine .of_children rfl trivial (List.forall_mem_singleton.mpr hm.numerals)
      fun hoperator hline => ?_
    have hgap : '\n' ∉ (operator ++ if Text.isWord operator then " " else "").toList := by
      rw [String.toList_append, List.mem_append]
      refine not_or.mpr ⟨hoperator operator rfl, ?_⟩
      split_ifs <;> decide
    rw [Sketch.isSolid_text, Sketch.isSolid_wrapped, and_iff_right hgap,
      hm.solid (List.forall_mem_singleton.mp hline)]
    exact List.forall_mem_singleton.symm

theorem drawn_assignmentExpression (operator : String) {left right : Node} {k l : Sketch}
    (hleft : Drawn style left k) (hright : Drawn style right l) :
    Drawn style (.assignmentExpression (.str operator) left right)
      (k ++ .text (" " ++ operator ++ " ") :: l) where
  print margin level := by
    rw [printNode, hleft.print, hright.print, Sketch.layOut_append, Sketch.layOut]
    cases Sketch.layOut margin level k <;> cases Sketch.layOut margin level l <;>
      simp [String.append_assoc]
  toShows := by
    refine .of_children rfl trivial ?_ fun hoperator hline => ?_
    · simpa [Node.children] using ⟨hleft.numerals, hright.numerals⟩
    · simp only [Node.children, List.forall_mem_cons] at hline ⊢
      simp [hoperator operator rfl, hleft.solid hline.1, hright.solid hline.2.1]

theorem drawn_callExpression {callee : Node} {arguments : List Node} {k : Sketch}
    {ks : List Sketch} (hcallee : Drawn style callee k)
    (harguments : List.Forall₂ (Drawn style) arguments ks) :
    Drawn style (.callExpression callee arguments) (Sketch.wrapped (wrapsCallee callee) k ++
      .text "(" :: (Sketch.joined ", " ks ++ [.text ")"])) where
  print margin level := by
    rw [printNode, hcallee.print, printNodes_drawn harguments, Sketch.layOut_append,
      Sketch.layOut_wrapped, Sketch.layOut, Sketch.layOut_append, Sketch.layOut_joined]
    cases Sketch.layOut margin level k with
    | error e => rfl
    | ok s =>
      cases List.mapM (Sketch.layOut margin level) ks <;>
        simp [texts_str, String.append_assoc]
  toShows := by
    have hshows := shows_of_drawn harguments
    refine .of_children rfl trivial
      (List.forall_mem_cons.mpr ⟨hcallee.numerals, numerals_of_forall₂ hshows⟩) fun _ hline => ?_
    obtain ⟨hcalleeLine, hline⟩ := List.forall_mem_cons.mp hline
    simp [Node.children, hcallee.solid hcalleeLine, Sketch.isSolid_joined,
      solid_of_forall₂ hshows hline]

theorem drawn_arrowFunction {params : List Node} {body : Node} {k : Sketch} {ks : List Sketch}
    (hparams : List.Forall₂ (Drawn style) params ks) (hbody : Drawn style body k) :
    Drawn style (.arrowFunction params body)
      (.text "(" :: (Sketch.joined ", " ks ++ .text ") => " :: Sketch.wrapped (wrapsBody body) k))
      where
  print margin level := by
    rw [printNode, hbody.print, printNodes_drawn hparams, Sketch.layOut, Sketch.layOut_append,
      Sketch.layOut_joined, Sketch.layOut, Sketch.layOut_wrapped]
    cases List.mapM (Sketch.layOut margin level) ks with
    | error e => rfl
    | ok ss =>
      cases Sketch.layOut margin level k <;>
        simp [texts_str, inserted, String.append_assoc]
  toShows := by
    have hshows := shows_of_drawn hparams
    refine .of_children rfl trivial
      (List.forall_mem_cons.mpr ⟨hbody.numerals, numerals_of_forall₂ hshows⟩) fun _ hline => ?_
    obtain ⟨hbodyLine, hline⟩ := List.forall_mem_cons.mp hline
    simp [Node.children, hbody.solid hbodyLine, Sketch.isSolid_joined,
      solid_of_forall₂ hshows hline, and_comm]

theorem lineFeed_not_mem_writtenAccess (hq : IsQuote style.quote) {k : String}
    (hk : '\n' ∉ k.toList) : '\n' ∉ (writtenAccess style.quote k).toList := by
  unfold writtenAccess
  split_ifs
  · simpa using hk
  · simpa using lineFeed_not_mem_quoted hq k.toList

/-- What is written of a property behind its object. -/
theorem drawn_access (hq : IsQuote style.quote) {property : Node} {l : Sketch} (computed : Bool)
    (htyped : property.IsTyped) (h : Drawn style property l) :
    ∃ m : Sketch, (∀ object margin level, accessText (style.under margin) (.str object) property
      computed (printNode (style.under margin) level property) =
        (object ++ ·) <$> m.layOut margin level) ∧
      (property.Everywhere StaysOnLine → (m.IsSolid ↔ property.Everywhere KeepsKey)) := by
  cases computed with
  | true =>
    refine ⟨.text "[" :: (l ++ [.text "]"]), fun object margin level => ?_,
      fun hline => by simp [h.solid hline]⟩
    rw [h.print, Sketch.layOut, Sketch.layOut_append]
    cases Sketch.layOut margin level l <;> simp [accessText, inserted, String.append_assoc]
  | false =>
    cases property with
    | identifier name =>
      obtain ⟨k, rfl⟩ := htyped
      have hleaf : (Node.identifier (.str k)).Everywhere KeepsKey := Node.everywhere_leaf rfl rfl
      refine ⟨[.text (writtenAccess style.quote k)], fun object margin level => ?_, fun hline => ?_⟩
      · rw [printNode, accessText_name, Sketch.layOut_text]
        rfl
      · simp [lineFeed_not_mem_writtenAccess hq (hline.here k rfl), hleaf]
    | _ =>
      refine ⟨.text "." :: l, fun object margin level => ?_, fun hline => by simp [h.solid hline]⟩
      rw [h.print, Sketch.layOut]
      cases Sketch.layOut margin level l <;> simp [accessText, inserted, String.append_assoc]

theorem drawn_memberExpression (hq : IsQuote style.quote) {object property : Node} {k l : Sketch}
    (computed : Bool) (htyped : property.IsTyped) (hobject : Drawn style object k)
    (hproperty : Drawn style property l) :
    ∃ m, Drawn style (.memberExpression object property (.bool computed)) m := by
  obtain ⟨m, hm, hsolid⟩ := drawn_access hq computed htyped hproperty
  refine ⟨k ++ m, .of_children rfl trivial ?_ fun _ hline => ?_, fun margin level => ?_⟩
  · simpa [Node.children] using ⟨hobject.numerals, hproperty.numerals⟩
  · simp only [Node.children, List.forall_mem_cons] at hline ⊢
    simp [hobject.solid hline.1, hsolid hline.2.1]
  · rw [printNode, hobject.print, Sketch.layOut_append]
    cases Sketch.layOut margin level k with
    | error e => rfl
    | ok s =>
      simp only [Result.ok_map, Result.ok_bind, Value.truthy, hm]
      cases Sketch.layOut margin level m <;> rfl

/-- What stands on lines of its own shows what the items show. -/
theorem Sketch.Shows.broken {n : Node} {ks : List Sketch} {opening closing separator : String}
    (hkey : n.memberKey = Result.fault .memberless) (hnumeral : n.HasNumeral)
    (hopening : '\n' ∉ opening.toList) (hclosing : '\n' ∉ closing.toList)
    (hseparator : '\n' ∉ separator.toList)
    (h : List.Forall₂ (fun m k => Sketch.Shows k m) n.children ks) :
    (Sketch.broken opening closing separator ks).Shows n := by
  refine .of_children hkey hnumeral (numerals_of_forall₂ h) fun _ hline => ?_
  rw [isSolid_broken hopening hclosing hseparator, solid_of_forall₂ h hline]

/-- A text of lines is a value as soon as it is there. -/
theorem map_str_broken (opening closing separator : String) (inner outer : Result String)
    (items : Result (List String)) :
    (do
      let i ← inner
      let ss ← items
      let o ← outer
      return Value.str (broken opening closing separator i o ss)) =
    Value.str <$> (do
      let i ← inner
      let ss ← items
      let o ← outer
      return broken opening closing separator i o ss) := by
  cases inner <;> cases items <;> cases outer <;> rfl

theorem drawn_arrayExpression {elements : List Node} {ks : List Sketch}
    (h : List.Forall₂ (Drawn style) elements ks) :
    ∃ k, Drawn style (.arrayExpression elements) k := by
  have hshows := shows_of_drawn h
  by_cases hne : elements = []
  · subst hne
    exact ⟨_, drawn_leaf rfl rfl (fun _ => by decide) trivial fun _ _ => rfl⟩
  -- What breaks an array over lines is the kind of an element, never the level.
  cases hflat : elements.any breaksArray with
  | false =>
    refine ⟨.text "[" :: (Sketch.joined ", " ks ++ [.text "]"]),
      .of_children rfl trivial (numerals_of_forall₂ hshows) fun _ hline => ?_,
      fun margin level => ?_⟩
    · simp [Node.children, Sketch.isSolid_joined, solid_of_forall₂ hshows hline]
    · rw [printNode, hflat, if_neg Bool.false_ne_true, printNodes_drawn h, Sketch.layOut,
        Sketch.layOut_append, Sketch.layOut_joined]
      · cases List.mapM (Sketch.layOut margin level) ks <;> simp [texts_str, String.append_assoc]
      · exact hne
  | true =>
    refine ⟨Sketch.broken "[" "]" "," ks,
      .broken rfl trivial (by decide) (by decide) (by decide) hshows, fun margin level => ?_⟩
    rw [printNode, hflat, if_pos rfl, printItems_drawn h,
      Sketch.layOut_broken _ _ _ (mt (forall₂_eq_nil_iff h).mpr hne)]
    · exact map_str_broken _ _ _ _ _ _
    · exact hne

theorem printBody_drawn {statements : List Node} {ks : List Sketch} (hne : statements ≠ [])
    (h : List.Forall₂ (Drawn style) statements ks) (margin : Nat → Result String) (level : Nat) :
    printBody (style.under margin) level (.blockStatement statements) =
      Sketch.layOut margin level (Sketch.broken "\x7b" "\x7d" "" ks) := by
  rw [printBody, printItems_drawn h,
    Sketch.layOut_broken _ _ _ (mt (forall₂_eq_nil_iff h).mpr hne)]
  · rfl
  · exact hne

theorem printNode_blockStatement (style : Style) (level : Nat) (statements : List Node) :
    printNode style level (.blockStatement statements) =
      Value.str <$> printBody style level (.blockStatement statements) := by
  cases statements with
  | nil => rfl
  | cons s statements =>
    rw [printNode, printBody]
    · exact map_str_broken _ _ _ _ _ _
    · exact List.cons_ne_nil _ _
    · exact List.cons_ne_nil _ _

theorem drawn_blockStatement {statements : List Node} {ks : List Sketch}
    (h : List.Forall₂ (Drawn style) statements ks) :
    ∃ k, Drawn style (.blockStatement statements) k := by
  by_cases hne : statements = []
  · subst hne
    exact ⟨_, drawn_leaf rfl rfl (fun _ => by decide) trivial fun _ _ => rfl⟩
  refine ⟨Sketch.broken "\x7b" "\x7d" "" ks,
    .broken rfl trivial (by decide) (by decide) (by decide) (shows_of_drawn h),
    fun margin level => ?_⟩
  rw [printNode_blockStatement, printBody_drawn hne h]

theorem drawn_objectExpression {properties : List Node} {ks : List Sketch}
    (h : List.Forall₂ (MemberDrawn style) properties ks) :
    ∃ k, Drawn style (.objectExpression properties) k := by
  by_cases hne : properties = []
  · subst hne
    exact ⟨_, drawn_leaf rfl rfl (fun _ => by decide) trivial fun _ _ => rfl⟩
  refine ⟨Sketch.broken "\x7b" "\x7d" "," ks,
    .broken rfl trivial (by decide) (by decide) (by decide)
      (h.imp fun _ _ hm => hm.toShows), fun margin level => ?_⟩
  rw [printNode, printMembers_drawn h,
    Sketch.layOut_broken _ _ _ (mt (forall₂_eq_nil_iff h).mpr hne)]
  · exact map_str_broken _ _ _ _ _ _
  · exact hne

theorem lineFeed_not_mem_writtenKey_iff (hq : IsQuote style.quote) {k : String} :
    '\n' ∉ (writtenKey style.quote k).toList ↔
      (Naming.isIdentifierName k = true → '\n' ∉ k.toList) := by
  unfold writtenKey
  split_ifs with h
  · simp [h]
  · simpa [h] using lineFeed_not_mem_quoted hq k.toList

/-- What is written of a key. -/
theorem drawn_key (hq : IsQuote style.quote) {key : Node} {l : Sketch} (htyped : key.IsTyped)
    (h : Drawn style key l) :
    ∃ k : Sketch, (∀ margin level, keyText (style.under margin) key
      (printNode (style.under margin) level key) = k.layOut margin level) ∧
      (key.Everywhere StaysOnLine → (k.IsSolid ↔ (∀ s, key = .stringLiteral (.str s) →
        Naming.isIdentifierName s = true → '\n' ∉ s.toList) ∧ key.Everywhere KeepsKey)) := by
  cases key with
  | identifier name =>
    obtain ⟨k, rfl⟩ := htyped
    have hleaf : (Node.identifier (.str k)).Everywhere KeepsKey := Node.everywhere_leaf rfl rfl
    refine ⟨[.text (writtenKey style.quote k)], fun margin level => ?_, fun hline => ?_⟩
    · rw [keyText_name (.inl rfl), Sketch.layOut_text]
      rfl
    · simp [lineFeed_not_mem_writtenKey_iff hq, hline.here k rfl, hleaf]
  | stringLiteral value =>
    obtain ⟨s, rfl⟩ := htyped
    have hleaf : (Node.stringLiteral (.str s)).Everywhere KeepsKey := Node.everywhere_leaf rfl rfl
    refine ⟨[.text (writtenKey style.quote s)], fun margin level => ?_, fun _ => ?_⟩
    · rw [keyText_name (.inr rfl), Sketch.layOut_text]
      rfl
    · simp [lineFeed_not_mem_writtenKey_iff hq, hleaf]
  | _ =>
    refine ⟨.text "[" :: (l ++ [.text "]"]), fun margin level => ?_,
      fun hline => by simp [h.solid hline]⟩
    rw [h.print, Sketch.layOut, Sketch.layOut_append]
    cases Sketch.layOut margin level l <;> simp [keyText, inserted, String.append_assoc]

/-- A shorthand has no line feed if its names have none. -/
theorem drawn_shorthand (hq : IsQuote style.quote) (name bound : String) :
    ∃ m, MemberDrawn style
      (.objectProperty (.identifier (.str name)) (.identifier (.str bound)) (.bool true)) m := by
  obtain ⟨s, hs, hmem⟩ : ∃ s, propertyText (writtenKey style.quote name) true (.str bound) =
      .ok s ∧ ∀ c ∈ s.toList, c ∈ (writtenKey style.quote name).toList ∨ c ∈ ": ".toList ∨
        c ∈ bound.toList := by
    unfold propertyText
    split_ifs
    · exact ⟨_, rfl, fun c hc => .inl hc⟩
    · exact ⟨_, rfl, fun c hc => by simpa [or_assoc] using hc⟩
  refine ⟨[.text s], ⟨fun hline => ?_, ?_⟩, fun margin level => ?_⟩
  · have hname := hline.children _ List.mem_cons_self
    have hbound := hline.children _ (List.mem_cons_of_mem _ List.mem_cons_self)
    have htext : '\n' ∉ s.toList := fun hc => by
      rcases hmem _ hc with hc | hc | hc
      · exact (lineFeed_not_mem_writtenKey_iff hq).mpr (fun _ => hname.here name rfl) hc
      · exact absurd hc (by decide)
      · exact hbound.here bound rfl hc
    have hleaf (s : String) : (Node.identifier (.str s)).Everywhere KeepsKey :=
      Node.everywhere_leaf rfl rfl
    rw [Node.everywhere_iff, Node.keepsKey_iff rfl, Sketch.isSolid_text, and_iff_right htext]
    simp [Node.children, hleaf]
  · have hidentifier (k : String) : Drawn style (.identifier (.str k)) [.text k] :=
      drawn_identifier k
    exact .intro trivial (List.forall_mem_cons.mpr ⟨(hidentifier name).numerals,
      List.forall_mem_singleton.mpr (hidentifier bound).numerals⟩)
  · rw [printMember, keyText_name (.inl rfl), Sketch.layOut_text]
    exact hs

theorem drawn_objectProperty (hq : IsQuote style.quote) {key value : Node} {k l : Sketch}
    {shorthand : Value} (htyped : (Node.objectProperty key value shorthand).IsTyped)
    (hkeyTyped : key.IsTyped) (hvalueTyped : value.IsTyped) (hkey : Drawn style key k)
    (hvalue : Drawn style value l) :
    ∃ m, MemberDrawn style (.objectProperty key value shorthand) m := by
  obtain ⟨b, rfl, hb⟩ := htyped
  cases b with
  | false =>
    obtain ⟨m, hprint, hsolid⟩ := drawn_key hq hkeyTyped hkey
    refine ⟨m ++ .text ": " :: l, ⟨fun hline => ?_, ?_⟩, fun margin level => ?_⟩
    · have hkeyLine := hline.children key List.mem_cons_self
      have hvalueLine := hline.children value (List.mem_cons_of_mem _ List.mem_cons_self)
      rw [Node.everywhere_iff, Node.keepsKey_iff rfl, Sketch.isSolid_append, hsolid hkeyLine]
      simp [Node.children, hvalue.solid hvalueLine, and_assoc]
    · exact .intro trivial (List.forall_mem_cons.mpr
        ⟨hkey.numerals, List.forall_mem_singleton.mpr hvalue.numerals⟩)
    · rw [printMember, hprint, hvalue.print, Sketch.layOut_append, Sketch.layOut]
      cases Sketch.layOut margin level m <;> cases Sketch.layOut margin level l <;>
        simp [propertyText, Value.truthy, String.append_assoc]
  | true =>
    obtain ⟨name, bound, rfl, rfl⟩ := hb rfl
    obtain ⟨name, rfl⟩ := hkeyTyped
    obtain ⟨bound, rfl⟩ := hvalueTyped
    exact drawn_shorthand hq name bound

theorem map_str_inj {r r' : Result String} (h : Value.str <$> r = Value.str <$> r') : r = r' := by
  cases r with
  | error e =>
    cases r' with
    | error e' => exact congrArg Except.error (Except.error.inj h)
    | ok s' => cases h
  | ok s =>
    cases r' with
    | error e' => cases h
    | ok s' => exact congrArg Except.ok (Value.str.inj (Except.ok.inj h))

theorem drawn_objectMethod (hq : IsQuote style.quote) {key : Node} {params statements : List Node}
    {k l : Sketch} {ks : List Sketch} (hkeyTyped : key.IsTyped) (hkey : Drawn style key k)
    (hparams : List.Forall₂ (Drawn style) params ks)
    (hbody : Drawn style (.blockStatement statements) l) :
    ∃ m, MemberDrawn style (.objectMethod key params (.blockStatement statements)) m := by
  obtain ⟨m, hprint, hsolid⟩ := drawn_key hq hkeyTyped hkey
  have hshows := shows_of_drawn hparams
  have hblock (margin : Nat → Result String) (level : Nat) :
      printBody (style.under margin) level (.blockStatement statements) =
        Sketch.layOut margin level l :=
    map_str_inj ((printNode_blockStatement _ _ _).symm.trans (hbody.print margin level))
  refine ⟨m ++ .text "(" :: (Sketch.joined ", " ks ++ .text ") " :: l),
    ⟨fun hline => ?_, ?_⟩, fun margin level => ?_⟩
  · obtain ⟨hkeyLine, hline⟩ := List.forall_mem_cons.mp hline.children
    obtain ⟨hbodyLine, hline⟩ := List.forall_mem_cons.mp hline
    rw [Node.everywhere_iff, Node.keepsKey_iff rfl, Sketch.isSolid_append, hsolid hkeyLine]
    simp [Node.children, Sketch.isSolid_joined, solid_of_forall₂ hshows hline,
      hbody.solid hbodyLine, and_assoc, and_comm, and_left_comm]
  · exact .intro trivial (List.forall_mem_cons.mpr ⟨hkey.numerals,
      List.forall_mem_cons.mpr ⟨hbody.numerals, numerals_of_forall₂ hshows⟩⟩)
  · rw [printMember, hprint, printNodes_drawn hparams, hblock, Sketch.layOut_append,
      Sketch.layOut, Sketch.layOut_append, Sketch.layOut_joined, Sketch.layOut]
    cases Sketch.layOut margin level m with
    | error e => rfl
    | ok s =>
      cases List.mapM (Sketch.layOut margin level) ks with
      | error e => rfl
      | ok ss =>
        cases Sketch.layOut margin level l <;> simp [texts_str, String.append_assoc]

end Componentry.Script
