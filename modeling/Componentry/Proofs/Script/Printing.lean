import Componentry.Component.Handler
import Componentry.Proofs.Result
import Componentry.Proofs.Text.Numeral
import Componentry.Script.Printer
import Mathlib.Data.List.Forall2

/-!
# What printing writes

For each construct of generated declarations, the text that is written for it, given the texts of
its parts. Everything that is said about printed text goes through these equations, so none of it
opens the printer.

They are about styles that have room for every margin. A style that lacks room for some prints the
same or fails, which is shown elsewhere.
-/

namespace Componentry

namespace Script

variable {style : Style} {level : Nat}

attribute [local simp] printNode printMember printBody

/-- The margin of each level is made of as many indentations, however long it gets. -/
def Style.Indents (style : Style) (ind : String) : Prop :=
  ∀ level, style.margin level = .ok (Text.repeated ind level)

theorem printNodes_eq_mapM (ns : List Node) :
    printNodes style level ns = ns.mapM (printNode style level) := by
  induction ns with
  | nil => rfl
  | cons n ns ih => rw [printNodes, ih, List.mapM_cons]

theorem printMembers_eq_mapM (ms : List Node) :
    printMembers style level ms = ms.mapM (printMember style level) := by
  induction ms with
  | nil => rfl
  | cons m ms ih => rw [printMembers, ih, List.mapM_cons]

theorem printNodes_texts {P : String → Node → Prop} {ns : List Node}
    (h : ∀ n ∈ ns, ∃ s, printNode style level n = .ok (.str s) ∧ P s n) :
    ∃ ss : List String, printNodes style level ns = .ok (ss.map .str) ∧ List.Forall₂ P ss ns := by
  induction ns with
  | nil => exact ⟨[], rfl, .nil⟩
  | cons n ns ih =>
    obtain ⟨s, hs, hp⟩ := h n List.mem_cons_self
    obtain ⟨ss, hss, hps⟩ := ih fun m hm => h m (List.mem_cons_of_mem n hm)
    refine ⟨s :: ss, ?_, .cons hp hps⟩
    rw [printNodes, hs, hss]
    rfl

theorem printMembers_texts {P : String → Node → Prop} {ms : List Node}
    (h : ∀ m ∈ ms, ∃ s, printMember style level m = .ok s ∧ P s m) :
    ∃ ss, printMembers style level ms = .ok ss ∧ List.Forall₂ P ss ms := by
  induction ms with
  | nil => exact ⟨[], rfl, .nil⟩
  | cons m ms ih =>
    obtain ⟨s, hs, hp⟩ := h m List.mem_cons_self
    obtain ⟨ss, hss, hps⟩ := ih fun n hn => h n (List.mem_cons_of_mem m hn)
    refine ⟨s :: ss, ?_, .cons hp hps⟩
    rw [printMembers, hs, hss]
    rfl

theorem texts_str (ss : List String) : texts (ss.map .str) = .ok ss := by
  induction ss with
  | nil => rfl
  | cons s ss ih =>
    rw [texts] at ih ⊢
    rw [List.map_cons, List.mapM_cons, ih]
    rfl

theorem inserted_ok (s : String) : inserted (.ok (.str s)) = .ok s := rfl

/-- Nodes on lines of their own are printed as nodes in a row are. -/
theorem printItems_of_printNodes {ns : List Node} {ss : List String}
    (h : printNodes style level ns = .ok (ss.map .str)) : printItems style level ns = .ok ss := by
  induction ns generalizing ss with
  | nil =>
    cases ss with
    | nil => rfl
    | cons s ss => cases h
  | cons n ns ih =>
    rw [printNodes] at h
    obtain ⟨v, hv, h⟩ := Result.bind_eq_ok.mp h
    obtain ⟨vs, hvs, h⟩ := Result.bind_eq_ok.mp h
    cases ss with
    | nil => cases h
    | cons s ss =>
      obtain ⟨rfl, rfl⟩ := List.cons.inj (Except.ok.inj h)
      rw [printItems, hv, inserted_ok, ih hvs]
      rfl

def writtenKey (quote : Char) (name : String) : String :=
  if Naming.isIdentifierName name then name else String.ofList (quoted quote name.toList)

def writtenAccess (quote : Char) (name : String) : String :=
  if Naming.isIdentifierName name then "." ++ name
  else "[" ++ String.ofList (quoted quote name.toList) ++ "]"

theorem keyText_name {key : Node} {name : String}
    (hkey : key = .identifier (.str name) ∨ key = .stringLiteral (.str name))
    (printed : Result Value) :
    keyText style key printed = .ok (writtenKey style.quote name) := by
  unfold writtenKey
  rcases hkey with rfl | rfl <;> cases h : Naming.isIdentifierName name <;>
    simp [keyText, keyName, Value.text, h]

theorem key_cases (name : String) :
    Node.key name = .identifier (.str name) ∨ Node.key name = .stringLiteral (.str name) := by
  unfold Node.key
  split_ifs
  · exact Or.inl rfl
  · exact Or.inr rfl

theorem accessText_name (object name : String) :
    accessText style (.str object) (.identifier (.str name)) false (.ok (.str name)) =
      .ok (object ++ writtenAccess style.quote name) := by
  unfold writtenAccess
  cases h : Naming.isIdentifierName name with
  | true => simp [accessText, isIdentifierName, Value.text, inserted, h, String.append_assoc]
  | false => simp [accessText, isIdentifierName, Value.text, quotedValue, h, String.append_assoc]

theorem numeral_int {i : Int} (h : Text.IsShort i) : numeral (.int i) = .ok (Text.decimal i) :=
  congrArg Result.ofText (Text.integer_of_isShort h)

theorem numeral_int_eq_ok {i : Int} {s : String} (h : numeral (.int i) = .ok s) :
    Text.IsShort i ∧ s = Text.decimal i := by
  have hnumeral : Result.ofText (Text.integer i) = .ok s := h
  cases hi : Text.integer i with
  | none =>
    rw [hi] at hnumeral
    cases hnumeral
  | some t =>
    rw [hi] at hnumeral
    cases hnumeral
    exact Text.integer_eq_some.mp hi

theorem exists_numeral_float (x : Double) : ∃ s, numeral (.float x) = .ok s := by
  unfold numeral
  split
  · exact ⟨_, rfl⟩
  · exact ⟨_, rfl⟩
  · split <;> exact ⟨_, rfl⟩
  · next hfloat => exact absurd rfl (hfloat x)

theorem printNode_numeral {v : Value} {s : String} (h : numeral v = .ok s) :
    printNode style level (.numericLiteral v) = .ok (.str s) := by
  rw [printNode, h]
  rfl

theorem printNode_array_inline {es : List Node} {ss : List String} (hne : es ≠ [])
    (hflat : es.any breaksArray = false) (h : printNodes style level es = .ok (ss.map .str)) :
    printNode style level (.arrayExpression es) = .ok (.str ("[" ++ Text.join ", " ss ++ "]")) := by
  cases es with
  | nil => exact absurd rfl hne
  | cons e es => simp [hflat, h, texts_str]

theorem printNode_array_broken {es : List Node} {ss : List String} {ind : String}
    (hflat : es.any breaksArray = true) (hind : style.Indents ind)
    (h : printNodes style (level + 1) es = .ok (ss.map .str)) :
    printNode style level (.arrayExpression es) =
      .ok (.str (broken "[" "]" "," (Text.repeated ind (level + 1)) (Text.repeated ind level)
        ss)) := by
  cases es with
  | nil => cases hflat
  | cons e es => simp [hflat, printItems_of_printNodes h, hind level, hind (level + 1)]

theorem printNode_object {ms : List Node} {ss : List String} {ind : String} (hne : ms ≠ [])
    (hind : style.Indents ind) (h : printMembers style (level + 1) ms = .ok ss) :
    printNode style level (.objectExpression ms) =
      .ok (.str (broken "\x7b" "\x7d" "," (Text.repeated ind (level + 1)) (Text.repeated ind level)
        ss)) := by
  cases ms with
  | nil => exact absurd rfl hne
  | cons m ms => simp [h, hind level, hind (level + 1)]

/-- Nothing but a margin is needed for the first line of an object. -/
theorem printNode_object_unindented {ms : List Node} {e : Failure} (hne : ms ≠ [])
    (hind : style.margin (level + 1) = .error e) :
    printNode style level (.objectExpression ms) = .error e := by
  cases ms with
  | nil => exact absurd rfl hne
  | cons m ms => simp [hind]

theorem printNode_arrowFunction {params : List Node} {body : Node} {ss : List String} {s : String}
    (hparams : printNodes style level params = .ok (ss.map .str))
    (hbody : printNode style level body = .ok (.str s)) :
    printNode style level (.arrowFunction params body) =
      .ok (.str ("(" ++ Text.join ", " ss ++ ") => " ++ wrapped (wrapsBody body) s)) := by
  rw [printNode, hparams, hbody]
  simp [texts_str, inserted]

theorem printNode_access {object : Node} {s : String}
    (h : printNode style level object = .ok (.str s)) (name : String) :
    printNode style level (.memberExpression object (.identifier (.str name)) (.bool false)) =
      .ok (.str (s ++ writtenAccess style.quote name)) := by
  rw [printNode, h, printNode, Value.truthy, Result.ok_bind, accessText_name]
  rfl

theorem printNode_selection {object property : Node} {s t : String}
    (hobject : printNode style level object = .ok (.str s))
    (hproperty : printNode style level property = .ok (.str t)) :
    printNode style level (.memberExpression object property (.bool true)) =
      .ok (.str (s ++ ("[" ++ t ++ "]"))) := by
  rw [printNode, hobject, hproperty]
  simp [accessText, inserted, Value.truthy, String.append_assoc]

theorem printNode_unaryExpression (operator : String) {argument : Node} {s : String}
    (h : printNode style level argument = .ok (.str s)) :
    printNode style level (.unaryExpression (.str operator) argument) =
      .ok (.str (operator ++ (if Text.isWord operator then " " else "") ++
        wrapped (wrapsOperand argument) s)) := by
  rw [printNode, h]
  rfl

theorem printNode_assignmentExpression {left right : Node} {s t : String}
    (hleft : printNode style level left = .ok (.str s))
    (hright : printNode style level right = .ok (.str t)) :
    printNode style level (.assignmentExpression (.str "=") left right) =
      .ok (.str (s ++ " " ++ "=" ++ " " ++ t)) := by
  rw [printNode, hleft, hright]
  rfl

theorem printNode_callExpression {callee : Node} {arguments : List Node} {s : String}
    {ss : List String} (hcallee : printNode style level callee = .ok (.str s))
    (harguments : printNodes style level arguments = .ok (ss.map .str)) :
    printNode style level (.callExpression callee arguments) =
      .ok (.str (wrapped (wrapsCallee callee) s ++ "(" ++ Text.join ", " ss ++ ")")) := by
  rw [printNode, hcallee, harguments]
  simp [texts_str]

theorem printNode_function {body : Node} {s : String}
    (h : printNode style level body = .ok (.str s)) :
    printNode style level (.arrowFunction [] body) =
      .ok (.str ("() => " ++ wrapped (wrapsBody body) s)) := by
  rw [printNode, h]
  rfl

theorem printNode_thisMember (name : String) :
    printNode style level (.thisMember (.str name)) =
      .ok (.str ("this" ++ writtenAccess style.quote name)) :=
  printNode_access rfl name

theorem printNode_negation (name : String) :
    printNode style level (.unaryExpression (.str "!") (.thisMember (.str name))) =
      .ok (.str ("!" ++ ("this" ++ writtenAccess style.quote name))) := by
  have hword : Text.isWord "!" = false := by decide +kernel
  rw [printNode_unaryExpression _ (printNode_thisMember name), hword]
  rfl

theorem printNode_assignment (name : String) {right : Node} {s : String}
    (h : printNode style level right = .ok (.str s)) :
    printNode style level (.assignmentExpression (.str "=") (.thisMember (.str name)) right) =
      .ok (.str ("this" ++ writtenAccess style.quote name ++ " " ++ "=" ++ " " ++ s)) :=
  printNode_assignmentExpression (printNode_thisMember name) h

theorem printNode_call (name : String) {arguments : List Node} {ss : List String}
    (h : printNodes style level arguments = .ok (ss.map .str)) :
    printNode style level (.callExpression (.thisMember (.str name)) arguments) =
      .ok (.str ("this" ++ writtenAccess style.quote name ++ "(" ++ Text.join ", " ss ++ ")")) :=
  printNode_callExpression (printNode_thisMember name) h

theorem printNode_expressionStatement {n : Node} {s : String}
    (h : printNode style level n = .ok (.str s)) :
    printNode style level (.expressionStatement n) = .ok (.str (s ++ style.terminator)) := by
  rw [printNode, h]
  rfl

theorem printNode_return {n : Node} {s : String} (h : printNode style level n = .ok (.str s)) :
    printNode style level (.returnStatement (some n)) =
      .ok (.str ("return " ++ s ++ style.terminator)) := by
  rw [printNode, h]
  rfl

theorem printNode_block {statements : List Node} {ss : List String} {ind : String}
    (hne : statements ≠ []) (hind : style.Indents ind)
    (h : printNodes style (level + 1) statements = .ok (ss.map .str)) :
    printNode style level (.blockStatement statements) =
      .ok (.str (broken "\x7b" "\x7d" "" (Text.repeated ind (level + 1)) (Text.repeated ind level)
        ss)) := by
  cases statements with
  | nil => exact absurd rfl hne
  | cons s statements => simp [printItems_of_printNodes h, hind level, hind (level + 1)]

theorem printBody_block {statements : List Node} {ss : List String} {ind : String}
    (hne : statements ≠ []) (hind : style.Indents ind)
    (h : printNodes style (level + 1) statements = .ok (ss.map .str)) :
    printBody style level (.blockStatement statements) =
      .ok (broken "\x7b" "\x7d" "" (Text.repeated ind (level + 1)) (Text.repeated ind level)
        ss) := by
  cases statements with
  | nil => exact absurd rfl hne
  | cons s statements => simp [printItems_of_printNodes h, hind level, hind (level + 1)]

theorem printMember_keyed {key value : Node} {name s : String}
    (hkey : key = .identifier (.str name) ∨ key = .stringLiteral (.str name))
    (h : printNode style level value = .ok (.str s)) :
    printMember style level (.objectProperty key value (.bool false)) =
      .ok (writtenKey style.quote name ++ ": " ++ s) := by
  rw [printMember, keyText_name hkey, h]
  rfl

theorem printMember_property (name : String) {value : Node} {s : String}
    (h : printNode style level value = .ok (.str s)) :
    printMember style level (.objectProperty (.key name) value (.bool false)) =
      .ok (writtenKey style.quote name ++ ": " ++ s) := printMember_keyed (key_cases name) h

theorem printMember_binding {name : String} (h : Naming.isIdentifierName name = true) :
    printMember style level
      (.objectProperty (.identifier (.str name)) (.identifier (.str name)) (.bool true)) =
      .ok name := by
  have hkey : keyText style (.identifier (.str name)) (.ok (.str name)) = .ok name := by
    simp [keyText, keyName, Value.text, h]
  rw [printMember, printNode, hkey]
  simp [propertyText, Value.truthy, Value.isText]

theorem printMember_method (name : String) {body : Node} {s : String}
    (h : printBody style level body = .ok s) :
    printMember style level (.objectMethod (.key name) [] body) =
      .ok (writtenKey style.quote name ++ "(" ++ "" ++ ") " ++ s) := by
  rw [printMember, keyText_name (key_cases name), h]
  rfl

theorem print_declaration {n : Node} {s : String} (h : printNode style 0 n = .ok (.str s)) :
    print style (.exportDefault n) = .ok (.str ("export default " ++ s ++ style.terminator)) := by
  rw [print, printNode, h]
  rfl

theorem print_declaration_error {n : Node} {e : Failure} (h : printNode style 0 n = .error e) :
    print style (.exportDefault n) = .error e := by
  rw [print, printNode, h]
  rfl

end Script

end Componentry
