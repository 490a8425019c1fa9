import Componentry.Proofs.Script.Drawn

/-!
# What can be printed has a sketch

Every node that is typed throughout is printed as one sketch is laid out, if only it can be printed
at all: that a node is printed at one level with some margins is enough for its parts to be printed,
and so to have sketches.
-/

namespace Componentry.Script

variable {style : Style}

/-- A node is printed with some margins at some level. -/
def Prints (style : Style) (n : Node) : Prop :=
  ∃ margin level v, printNode (style.under margin) level n = .ok v

def PrintsMember (style : Style) (n : Node) : Prop :=
  ∃ margin level s, printMember (style.under margin) level n = .ok s

/-- A typed node has a sketch wherever it can be printed. -/
structure HasSketch (style : Style) (n : Node) : Prop where
  typed : n.IsTyped
  node : Prints style n → ∃ k, Drawn style n k
  member : PrintsMember style n → ∃ k, MemberDrawn style n k

theorem exists_forall₂ {α β : Type} {R : α → β → Prop} {as : List α}
    (h : ∀ a ∈ as, ∃ b, R a b) : ∃ bs, List.Forall₂ R as bs := by
  induction as with
  | nil => exact ⟨[], .nil⟩
  | cons a as ih =>
    obtain ⟨⟨b, hb⟩, has⟩ := List.forall_mem_cons.mp h
    obtain ⟨bs, hbs⟩ := ih has
    exact ⟨b :: bs, .cons hb hbs⟩

section

variable {margin : Nat → Result String} {level : Nat}

theorem exists_drawn_nodes {ns : List Node} {vs : List Value}
    (h : ∀ n ∈ ns, HasSketch style n)
    (hprint : printNodes (style.under margin) level ns = .ok vs) :
    ∃ ks, List.Forall₂ (Drawn style) ns ks := by
  rw [printNodes_eq_mapM] at hprint
  have heach := Result.exists_mapM_iff.mp ⟨vs, hprint⟩
  exact exists_forall₂ fun n hn => (h n hn).node ⟨margin, level, heach n hn⟩

theorem prints_of_inserted {n : Node} {s : String}
    (h : inserted (printNode (style.under margin) level n) = .ok s) : Prints style n := by
  obtain ⟨v, hv, -⟩ := Result.bind_eq_ok.mp h
  exact ⟨margin, level, v, hv⟩

theorem exists_drawn_items {ns : List Node} {ss : List String}
    (h : ∀ n ∈ ns, HasSketch style n)
    (hprint : printItems (style.under margin) level ns = .ok ss) :
    ∃ ks, List.Forall₂ (Drawn style) ns ks := by
  induction ns generalizing ss with
  | nil => exact ⟨[], .nil⟩
  | cons n ns ih =>
    obtain ⟨hn, hns⟩ := List.forall_mem_cons.mp h
    obtain ⟨s, hs, hprint⟩ := Result.bind_eq_ok.mp hprint
    obtain ⟨ss, hss, -⟩ := Result.bind_eq_ok.mp hprint
    obtain ⟨k, hk⟩ := hn.node (prints_of_inserted hs)
    obtain ⟨ks, hks⟩ := ih hns hss
    exact ⟨k :: ks, .cons hk hks⟩

theorem exists_drawn_members {ms : List Node} {ss : List String}
    (h : ∀ m ∈ ms, HasSketch style m)
    (hprint : printMembers (style.under margin) level ms = .ok ss) :
    ∃ ks, List.Forall₂ (MemberDrawn style) ms ks := by
  rw [printMembers_eq_mapM] at hprint
  have heach := Result.exists_mapM_iff.mp ⟨ss, hprint⟩
  exact exists_forall₂ fun m hm => (h m hm).member ⟨margin, level, heach m hm⟩

/-- Names and literals can be printed in any case, and the text of any other key needs the key. -/
theorem prints_of_keyText {key : Node} {s : String} (htyped : key.IsTyped)
    (h : keyText (style.under margin) key (printNode (style.under margin) level key) = .ok s) :
    Prints style key := by
  cases key with
  | identifier name => exact ⟨margin, level, _, rfl⟩
  | stringLiteral value =>
    obtain ⟨s, rfl⟩ := htyped
    exact ⟨margin, level, _, rfl⟩
  | _ =>
    obtain ⟨s, hs, -⟩ := Result.bind_eq_ok.mp h
    exact prints_of_inserted hs

theorem prints_of_accessText {object : Value} {property : Node} {computed : Bool} {s : String}
    (h : accessText (style.under margin) object property computed
      (printNode (style.under margin) level property) = .ok s) : Prints style property := by
  cases computed with
  | true =>
    obtain ⟨t, -, h⟩ := Result.bind_eq_ok.mp h
    obtain ⟨s, hs, -⟩ := Result.bind_eq_ok.mp h
    exact prints_of_inserted hs
  | false =>
    cases property with
    | identifier name => exact ⟨margin, level, _, rfl⟩
    | _ =>
      obtain ⟨t, -, h⟩ := Result.bind_eq_ok.mp h
      obtain ⟨s, hs, -⟩ := Result.bind_eq_ok.mp h
      exact prints_of_inserted hs

end

theorem exists_drawn_numericLiteral {v : Value} (htyped : (Node.numericLiteral v).IsTyped)
    (hprints : Prints style (.numericLiteral v)) : ∃ k, Drawn style (.numericLiteral v) k := by
  obtain ⟨margin, level, w, hw⟩ := hprints
  obtain ⟨s, hs, -⟩ := Result.bind_eq_ok.mp hw
  exact ⟨_, drawn_numericLiteral htyped hs⟩

theorem exists_drawn_arrayExpression {elements : List Node}
    (h : ∀ e ∈ elements, HasSketch style e) (hprints : Prints style (.arrayExpression elements)) :
    ∃ k, Drawn style (.arrayExpression elements) k := by
  obtain ⟨margin, level, v, hv⟩ := hprints
  cases elements with
  | nil => exact drawn_arrayExpression .nil
  | cons e es =>
    simp only [printNode] at hv
    split_ifs at hv
    · obtain ⟨inner, -, hv⟩ := Result.bind_eq_ok.mp hv
      obtain ⟨ss, hss, -⟩ := Result.bind_eq_ok.mp hv
      obtain ⟨ks, hks⟩ := exists_drawn_items h hss
      exact drawn_arrayExpression hks
    · obtain ⟨vs, hvs, -⟩ := Result.bind_eq_ok.mp hv
      obtain ⟨ks, hks⟩ := exists_drawn_nodes h hvs
      exact drawn_arrayExpression hks

theorem exists_drawn_objectExpression {properties : List Node}
    (h : ∀ m ∈ properties, HasSketch style m)
    (hprints : Prints style (.objectExpression properties)) :
    ∃ k, Drawn style (.objectExpression properties) k := by
  obtain ⟨margin, level, v, hv⟩ := hprints
  cases properties with
  | nil => exact drawn_objectExpression .nil
  | cons m ms =>
    obtain ⟨inner, -, hv⟩ := Result.bind_eq_ok.mp hv
    obtain ⟨ss, hss, -⟩ := Result.bind_eq_ok.mp hv
    obtain ⟨ks, hks⟩ := exists_drawn_members h hss
    exact drawn_objectExpression hks

theorem exists_drawn_blockStatement {statements : List Node}
    (h : ∀ s ∈ statements, HasSketch style s)
    (hprints : Prints style (.blockStatement statements)) :
    ∃ k, Drawn style (.blockStatement statements) k := by
  obtain ⟨margin, level, v, hv⟩ := hprints
  cases statements with
  | nil => exact drawn_blockStatement .nil
  | cons s ss =>
    obtain ⟨inner, -, hv⟩ := Result.bind_eq_ok.mp hv
    obtain ⟨ts, hts, -⟩ := Result.bind_eq_ok.mp hv
    obtain ⟨ks, hks⟩ := exists_drawn_items h hts
    exact drawn_blockStatement hks

theorem exists_drawn_arrowFunction {params : List Node} {body : Node}
    (hparams : ∀ p ∈ params, HasSketch style p) (hbody : HasSketch style body)
    (hprints : Prints style (.arrowFunction params body)) :
    ∃ k, Drawn style (.arrowFunction params body) k := by
  obtain ⟨margin, level, v, hv⟩ := hprints
  obtain ⟨vs, hvs, hv⟩ := Result.bind_eq_ok.mp hv
  obtain ⟨ss, -, hv⟩ := Result.bind_eq_ok.mp hv
  obtain ⟨s, hs, -⟩ := Result.bind_eq_ok.mp hv
  obtain ⟨ks, hks⟩ := exists_drawn_nodes hparams hvs
  obtain ⟨k, hk⟩ := hbody.node (prints_of_inserted hs)
  exact ⟨_, drawn_arrowFunction hks hk⟩

theorem exists_drawn_memberExpression (hq : IsQuote style.quote) {object property : Node}
    (computed : Bool) (hobject : HasSketch style object) (hproperty : HasSketch style property)
    (hprints : Prints style (.memberExpression object property (.bool computed))) :
    ∃ k, Drawn style (.memberExpression object property (.bool computed)) k := by
  obtain ⟨margin, level, v, hv⟩ := hprints
  obtain ⟨w, hw, hv⟩ := Result.bind_eq_ok.mp hv
  obtain ⟨s, hs, -⟩ := Result.bind_eq_ok.mp hv
  obtain ⟨k, hk⟩ := hobject.node ⟨margin, level, w, hw⟩
  obtain ⟨l, hl⟩ := hproperty.node (prints_of_accessText hs)
  exact drawn_memberExpression hq computed hproperty.typed hk hl

theorem exists_drawn_unaryExpression (operator : String) {argument : Node}
    (h : HasSketch style argument)
    (hprints : Prints style (.unaryExpression (.str operator) argument)) :
    ∃ k, Drawn style (.unaryExpression (.str operator) argument) k := by
  obtain ⟨margin, level, v, hv⟩ := hprints
  obtain ⟨w, hw, -⟩ := Result.bind_eq_ok.mp hv
  obtain ⟨k, hk⟩ := h.node ⟨margin, level, w, hw⟩
  exact ⟨_, drawn_unaryExpression operator hk⟩

theorem exists_drawn_assignmentExpression (operator : String) {left right : Node}
    (hleft : HasSketch style left) (hright : HasSketch style right)
    (hprints : Prints style (.assignmentExpression (.str operator) left right)) :
    ∃ k, Drawn style (.assignmentExpression (.str operator) left right) k := by
  obtain ⟨margin, level, v, hv⟩ := hprints
  obtain ⟨w, hw, hv⟩ := Result.bind_eq_ok.mp hv
  obtain ⟨u, hu, -⟩ := Result.bind_eq_ok.mp hv
  obtain ⟨k, hk⟩ := hleft.node ⟨margin, level, w, hw⟩
  obtain ⟨l, hl⟩ := hright.node ⟨margin, level, u, hu⟩
  exact ⟨_, drawn_assignmentExpression operator hk hl⟩

theorem exists_drawn_callExpression {callee : Node} {arguments : List Node}
    (hcallee : HasSketch style callee) (harguments : ∀ a ∈ arguments, HasSketch style a)
    (hprints : Prints style (.callExpression callee arguments)) :
    ∃ k, Drawn style (.callExpression callee arguments) k := by
  obtain ⟨margin, level, v, hv⟩ := hprints
  obtain ⟨w, hw, hv⟩ := Result.bind_eq_ok.mp hv
  obtain ⟨vs, hvs, -⟩ := Result.bind_eq_ok.mp hv
  obtain ⟨k, hk⟩ := hcallee.node ⟨margin, level, w, hw⟩
  obtain ⟨ks, hks⟩ := exists_drawn_nodes harguments hvs
  exact ⟨_, drawn_callExpression hk hks⟩

section

variable (hterminator : '\n' ∉ style.terminator.toList)

include hterminator

theorem exists_drawn_expressionStatement {expression : Node} (h : HasSketch style expression)
    (hprints : Prints style (.expressionStatement expression)) :
    ∃ k, Drawn style (.expressionStatement expression) k := by
  obtain ⟨margin, level, v, hv⟩ := hprints
  obtain ⟨w, hw, -⟩ := Result.bind_eq_ok.mp hv
  obtain ⟨k, hk⟩ := h.node ⟨margin, level, w, hw⟩
  exact drawn_expressionStatement hterminator hk

theorem exists_drawn_returnStatement {argument : Option Node}
    (h : ∀ a ∈ argument, HasSketch style a) (hprints : Prints style (.returnStatement argument)) :
    ∃ k, Drawn style (.returnStatement argument) k := by
  obtain ⟨margin, level, v, hv⟩ := hprints
  cases argument with
  | none =>
    refine ⟨_, drawn_leaf (s := "return" ++ style.terminator) rfl rfl (fun _ => ?_) trivial
      fun _ _ => rfl⟩
    simp [hterminator]
  | some argument =>
    obtain ⟨s, hs, -⟩ := Result.bind_eq_ok.mp hv
    obtain ⟨k, hk⟩ := (h argument rfl).node (prints_of_inserted hs)
    exact drawn_returnStatement hterminator hk

theorem exists_drawn_exportDefault {declaration : Node} (h : HasSketch style declaration)
    (hprints : Prints style (.exportDefault declaration)) :
    ∃ k, Drawn style (.exportDefault declaration) k := by
  obtain ⟨margin, level, v, hv⟩ := hprints
  obtain ⟨s, hs, -⟩ := Result.bind_eq_ok.mp hv
  obtain ⟨k, hk⟩ := h.node (prints_of_inserted hs)
  exact drawn_exportDefault hterminator hk

end

theorem exists_drawn (hq : IsQuote style.quote) (hterminator : '\n' ∉ style.terminator.toList)
    {n : Node} (htyped : n.IsTyped) (h : ∀ m ∈ n.children, HasSketch style m)
    (hprints : Prints style n) : ∃ k, Drawn style n k := by
  cases n with
  | identifier name =>
    obtain ⟨k, rfl⟩ := htyped
    exact ⟨_, drawn_identifier k⟩
  | stringLiteral value =>
    obtain ⟨s, rfl⟩ := htyped
    exact ⟨_, drawn_stringLiteral hq s⟩
  | numericLiteral value => exact exists_drawn_numericLiteral htyped hprints
  | booleanLiteral value =>
    refine ⟨_, drawn_leaf rfl rfl (fun _ => ?_) trivial fun _ _ => rfl⟩
    split_ifs <;> decide
  | nullLiteral => exact ⟨_, drawn_leaf rfl rfl (fun _ => by decide) trivial fun _ _ => rfl⟩
  | thisExpression => exact ⟨_, drawn_leaf rfl rfl (fun _ => by decide) trivial fun _ _ => rfl⟩
  | arrayExpression elements => exact exists_drawn_arrayExpression h hprints
  | objectExpression properties => exact exists_drawn_objectExpression h hprints
  | blockStatement statements => exact exists_drawn_blockStatement h hprints
  | arrowFunction params body =>
    obtain ⟨hbody, hparams⟩ := List.forall_mem_cons.mp h
    exact exists_drawn_arrowFunction hparams hbody hprints
  | memberExpression object property computed =>
    obtain ⟨b, rfl⟩ := htyped
    exact exists_drawn_memberExpression hq b (h object List.mem_cons_self)
      (h property (List.mem_cons_of_mem _ List.mem_cons_self)) hprints
  | unaryExpression operator argument =>
    obtain ⟨s, rfl⟩ := htyped
    exact exists_drawn_unaryExpression s (List.forall_mem_singleton.mp h) hprints
  | assignmentExpression operator left right =>
    obtain ⟨s, rfl⟩ := htyped
    exact exists_drawn_assignmentExpression s (h left List.mem_cons_self)
      (h right (List.mem_cons_of_mem _ List.mem_cons_self)) hprints
  | callExpression callee arguments =>
    obtain ⟨hcallee, harguments⟩ := List.forall_mem_cons.mp h
    exact exists_drawn_callExpression hcallee harguments hprints
  | expressionStatement expression =>
    exact exists_drawn_expressionStatement hterminator (List.forall_mem_singleton.mp h) hprints
  | returnStatement argument =>
    exact exists_drawn_returnStatement hterminator
      (fun a ha => h a (Option.mem_toList.mpr ha)) hprints
  | exportDefault declaration =>
    exact exists_drawn_exportDefault hterminator (List.forall_mem_singleton.mp h) hprints
  | _ =>
    obtain ⟨margin, level, v, hv⟩ := hprints
    cases hv

theorem exists_drawn_objectProperty (hq : IsQuote style.quote) {key value : Node}
    {shorthand : Value} (htyped : (Node.objectProperty key value shorthand).IsTyped)
    (hkey : HasSketch style key) (hvalue : HasSketch style value)
    (hprints : PrintsMember style (.objectProperty key value shorthand)) :
    ∃ k, MemberDrawn style (.objectProperty key value shorthand) k := by
  obtain ⟨margin, level, s, hs⟩ := hprints
  obtain ⟨t, ht, hs⟩ := Result.bind_eq_ok.mp hs
  obtain ⟨v, hv, -⟩ := Result.bind_eq_ok.mp hs
  obtain ⟨k, hk⟩ := hkey.node (prints_of_keyText hkey.typed ht)
  obtain ⟨l, hl⟩ := hvalue.node ⟨margin, level, v, hv⟩
  exact drawn_objectProperty hq htyped hkey.typed hvalue.typed hk hl

theorem exists_drawn_objectMethod (hq : IsQuote style.quote) {key body : Node}
    {params : List Node} (hkey : HasSketch style key) (hbody : HasSketch style body)
    (hparams : ∀ p ∈ params, HasSketch style p)
    (hprints : PrintsMember style (.objectMethod key params body)) :
    ∃ k, MemberDrawn style (.objectMethod key params body) k := by
  obtain ⟨margin, level, s, hs⟩ := hprints
  obtain ⟨t, ht, hs⟩ := Result.bind_eq_ok.mp hs
  obtain ⟨vs, hvs, hs⟩ := Result.bind_eq_ok.mp hs
  obtain ⟨ss, -, hs⟩ := Result.bind_eq_ok.mp hs
  obtain ⟨b, hb, -⟩ := Result.bind_eq_ok.mp hs
  obtain ⟨k, hk⟩ := hkey.node (prints_of_keyText hkey.typed ht)
  obtain ⟨ks, hks⟩ := exists_drawn_nodes hparams hvs
  cases body with
  | blockStatement statements =>
    have hprint : printNode (style.under margin) level (.blockStatement statements) =
        .ok (.str b) := by
      rw [printNode_blockStatement, hb]
      rfl
    obtain ⟨l, hl⟩ := hbody.node ⟨margin, level, _, hprint⟩
    exact drawn_objectMethod hq hkey.typed hk hks hl
  | arrowFunction params body =>
    obtain ⟨inner, -, hb⟩ := Result.bind_eq_ok.mp hb
    cases hb
  | objectMethod key params body =>
    obtain ⟨inner, -, hb⟩ := Result.bind_eq_ok.mp hb
    cases hb
  | _ => cases hb

theorem exists_drawn_member (hq : IsQuote style.quote) {n : Node} (htyped : n.IsTyped)
    (h : ∀ m ∈ n.children, HasSketch style m) (hprints : PrintsMember style n) :
    ∃ k, MemberDrawn style n k := by
  cases n with
  | objectProperty key value shorthand =>
    exact exists_drawn_objectProperty hq htyped (h key List.mem_cons_self)
      (h value (List.mem_cons_of_mem _ List.mem_cons_self)) hprints
  | objectMethod key params body =>
    obtain ⟨hkey, h⟩ := List.forall_mem_cons.mp h
    obtain ⟨hbody, hparams⟩ := List.forall_mem_cons.mp h
    exact exists_drawn_objectMethod hq hkey hbody hparams hprints
  | _ =>
    obtain ⟨margin, level, s, hs⟩ := hprints
    cases hs

/-- Every node that is typed throughout has a sketch wherever it can be printed. -/
theorem hasSketch (hq : IsQuote style.quote) (hterminator : '\n' ∉ style.terminator.toList)
    {n : Node} (h : n.Everywhere Node.IsTyped) : HasSketch style n := by
  -- The same node may be printed as a node and as a member, so the induction carries both.
  induction h with
  | intro here below ih =>
    exact ⟨here, exists_drawn hq hterminator here ih, exists_drawn_member hq here ih⟩

end Componentry.Script
