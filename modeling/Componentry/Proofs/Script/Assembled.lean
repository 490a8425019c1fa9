import Componentry.Component.Options
import Componentry.Proofs.Script.Grammar
import Mathlib.Data.List.TakeWhile

/-!
# Assembled declarations

The declarations that descriptions are turned into consist of few of the nodes that the script has.
`Assembled` says which, by the role that a node plays, so what holds of every declaration is shown
by one induction. `reread` is the node that the text of such a node is read as: the line feed that
a bare name may end with is white space to a reader.
-/

namespace Componentry.Script

/-- The name that a name is read as where it is written bare. -/
def settledName (s : String) : String :=
  if Naming.isIdentifierName s then String.ofList (s.toList.takeWhile continuesName) else s

theorem identifierTail_blank {cs : List Char} (h : Naming.identifierTail cs = true) :
    cs.dropWhile continuesName = [] ∨ cs.dropWhile continuesName = ['\n'] := by
  fun_induction Naming.identifierTail cs with
  | case1 => exact Or.inl rfl
  | case2 => exact Or.inr rfl
  | case3 c rest hne ih =>
    rw [Bool.and_eq_true] at h
    have hc : continuesName c = true := h.1
    rw [List.dropWhile_cons_of_pos hc]
    exact ih h.2

theorem bareName_cons {s : String} (h : Naming.isIdentifierName s = true) :
    ∃ c cs, s.toList = c :: cs ∧ beginsName c = true ∧ Naming.identifierTail cs = true := by
  unfold Naming.isIdentifierName at h
  split at h
  · cases h
  · next c cs heq =>
    rw [Bool.and_eq_true] at h
    exact ⟨c, cs, heq, h⟩

theorem bareName_parts {s : String} (h : Naming.isIdentifierName s = true) :
    ∃ name ws, s.toList = name ++ ws ∧ (ws = [] ∨ ws = ['\n']) ∧
      name.head?.any beginsName = true ∧ (∀ c ∈ name, continuesName c = true) ∧
      settledName s = String.ofList name := by
  obtain ⟨c, cs, heq, hb, htail⟩ := bareName_cons h
  have hc : continuesName c = true := by rw [continuesName, hb, Bool.true_or]
  have hsettled : settledName s = String.ofList (s.toList.takeWhile continuesName) := if_pos h
  rw [hsettled, heq]
  refine ⟨_, _, List.takeWhile_append_dropWhile.symm, ?_, ?_, fun d hd => ?_, rfl⟩
  · rw [List.dropWhile_cons_of_pos hc]
    exact identifierTail_blank htail
  · rw [List.takeWhile_cons_of_pos hc]
    exact hb
  · exact List.mem_takeWhile_imp hd

theorem settledName_of_not_mem {s : String} (h : '\n' ∉ s.toList) : settledName s = s := by
  cases hs : Naming.isIdentifierName s with
  | false => simp [settledName, hs]
  | true =>
    obtain ⟨name, ws, heq, hws, -, -, hsettled⟩ := bareName_parts hs
    rcases hws with rfl | rfl
    · rw [hsettled, ← List.append_nil name, ← heq, String.ofList_toList]
    · exact absurd (heq ▸ List.mem_append_right name List.mem_cons_self) h

theorem not_mem_settledName {s : String} (h : Naming.isIdentifierName s = true) :
    '\n' ∉ (settledName s).toList := by
  obtain ⟨name, ws, -, -, -, hc, hsettled⟩ := bareName_parts h
  rw [hsettled, String.toList_ofList]
  exact fun hmem => absurd (hc _ hmem) (by decide)

theorem settledName_settledName (s : String) : settledName (settledName s) = settledName s := by
  cases hs : Naming.isIdentifierName s with
  | false =>
    have hself : settledName s = s := by simp [settledName, hs]
    rw [hself, hself]
  | true => exact settledName_of_not_mem (not_mem_settledName hs)

/-- Only a bare name with a line feed behind it is read as another name. -/
theorem settledName_eq_self_iff {s : String} :
    settledName s = s ↔ ¬ (Naming.isIdentifierName s = true ∧ '\n' ∈ s.toList) := by
  constructor
  · rintro h ⟨hs, hmem⟩
    have hnot := not_mem_settledName hs
    rw [h] at hnot
    exact hnot hmem
  · intro h
    by_cases hs : Naming.isIdentifierName s = true
    · exact settledName_of_not_mem fun hmem => h ⟨hs, hmem⟩
    · simp [settledName, hs]

inductive Role where
  | expression
  | member
  | statement

def optionNames : List String :=
  ["name", "props", "components", "data", "methods", "required", "type", "default"]

/-- What descriptions bring into a declaration besides texts. -/
structure Vocabulary where
  number : Value → Prop
  /-- The names of keys and fields, those of the options among them. -/
  name : String → Prop
  component : String → Prop
  options : ∀ k ∈ optionNames, name k

/-- The nodes that declarations consist of. -/
inductive Assembled (voc : Vocabulary) : Role → Node → Prop
  | null : Assembled voc .expression .nullLiteral
  | bool (b : Bool) : Assembled voc .expression (.booleanLiteral (.bool b))
  | number {v : Value} (hv : voc.number v) : Assembled voc .expression (.numericLiteral v)
  | text (s : String) : Assembled voc .expression (.stringLiteral (.str s))
  | array {es : List Node} (hes : ∀ e ∈ es, Assembled voc .expression e) :
    Assembled voc .expression (.arrayExpression es)
  | object {ms : List Node} (hms : ∀ m ∈ ms, Assembled voc .member m)
    (hprototype : ms.countP setsPrototype ≤ 1) : Assembled voc .expression (.objectExpression ms)
  | constructor (kind : PropKind) :
    Assembled voc .expression (.identifier (.str kind.runtimeType))
  | fresh {e : Node} (he : Assembled voc .expression e) :
    Assembled voc .expression (.arrowFunction [] e)
  | toggled {k : String} (hk : voc.name k) :
    Assembled voc .expression (.unaryExpression (.str "!") (.thisMember (.str k)))
  | property {k : String} {v : Node} (hk : voc.name k) (hv : Assembled voc .expression v) :
    Assembled voc .member (.objectProperty (.key k) v (.bool false))
  | binding {k : String} (hk : voc.component k) :
    Assembled voc .member (Component.binding (.str k))
  | method {k : String} {ss : List Node} (hk : voc.name k)
    (hss : ∀ s ∈ ss, Assembled voc .statement s) :
    Assembled voc .member (.objectMethod (.key k) [] (.blockStatement ss))
  | result {e : Node} (he : Assembled voc .expression e) :
    Assembled voc .statement (.returnStatement (some e))
  | assignment {k : String} {e : Node} (hk : voc.name k) (he : Assembled voc .expression e) :
    Assembled voc .statement
      (.expressionStatement (.assignmentExpression (.str "=") (.thisMember (.str k)) e))
  | emission {es : List Node} (hes : ∀ e ∈ es, Assembled voc .expression e) :
    Assembled voc .statement
      (.expressionStatement (.callExpression (.thisMember (.str emitMethod)) es))

mutual

/-- The node with each name settled. -/
def reread : Node → Node
  | .identifier (.str s) => .identifier (.str (settledName s))
  | .arrayExpression es => .arrayExpression (rereadAll es)
  | .objectProperty k v s => .objectProperty (reread k) (reread v) s
  | .objectMethod k ps b => .objectMethod (reread k) (rereadAll ps) (reread b)
  | .objectExpression ms => .objectExpression (rereadAll ms)
  | .arrowFunction ps b => .arrowFunction (rereadAll ps) (reread b)
  | .memberExpression o p c => .memberExpression (reread o) (reread p) c
  | .unaryExpression operator a => .unaryExpression operator (reread a)
  | .assignmentExpression operator l r => .assignmentExpression operator (reread l) (reread r)
  | .callExpression c as => .callExpression (reread c) (rereadAll as)
  | .expressionStatement e => .expressionStatement (reread e)
  | .returnStatement (some e) => .returnStatement (some (reread e))
  | .blockStatement ss => .blockStatement (rereadAll ss)
  | .exportDefault d => .exportDefault (reread d)
  | n => n

def rereadAll : List Node → List Node
  | [] => []
  | n :: ns => reread n :: rereadAll ns

end

theorem rereadAll_eq_map (ns : List Node) : rereadAll ns = ns.map reread := by
  induction ns with
  | nil => rfl
  | cons n ns ih => rw [rereadAll, ih, List.map_cons]

theorem reread_key (k : String) :
    reread (.key k) =
      if Naming.isIdentifierName k then .identifier (.str (settledName k))
      else .stringLiteral (.str k) := by
  unfold Node.key
  split_ifs <;> rfl

/-- The token that a key is written with. -/
def keyToken (k : String) : Token :=
  if Naming.isIdentifierName k then .word (settledName k) else .text k

theorem key_keyToken (k : String) (b : Bool) (tail : List Lexeme) :
    key (⟨keyToken k, b⟩ :: tail) = some (reread (.key k), tail) := by
  rw [keyToken, reread_key]
  split_ifs <;> rfl

theorem reread_thisMember (k : String) :
    reread (.thisMember (.str k)) = .thisMember (.str (settledName k)) := rfl

theorem reread_key_eq_self {k : String} (h : settledName k = k) : reread (.key k) = .key k := by
  rw [reread_key, h]
  rfl

theorem settledName_runtimeType (kind : PropKind) :
    settledName kind.runtimeType = kind.runtimeType := by
  cases kind <;> decide

theorem settledName_emitMethod : settledName emitMethod = emitMethod := by decide

section

variable {voc : Vocabulary} {role : Role} {n : Node}

theorem Assembled.reread_eq_self (h : Assembled voc role n)
    (hname : ∀ k, voc.name k → settledName k = k)
    (hcomponent : ∀ k, voc.component k → settledName k = k) : reread n = n := by
  have hall : ∀ {ns : List Node}, (∀ n ∈ ns, reread n = n) → rereadAll ns = ns := fun hns => by
    rw [rereadAll_eq_map, List.map_congr_left hns, List.map_id']
  induction h with
  | null | bool | number | text => rfl
  | array hes ih => rw [reread, hall ih]
  | object hms _ ih => rw [reread, hall ih]
  | constructor kind => rw [reread, settledName_runtimeType]
  | fresh he ih => rw [reread, ih, rereadAll]
  | toggled hk => rw [reread, reread_thisMember, hname _ hk]
  | property hk hv ih => rw [reread, reread_key_eq_self (hname _ hk), ih]
  | binding hk => rw [Component.binding, reread, reread, hcomponent _ hk]
  | method hk hss ih => rw [reread, reread_key_eq_self (hname _ hk), reread, hall ih, rereadAll]
  | result he ih => rw [reread, ih]
  | assignment hk he ih => rw [reread, reread, reread_thisMember, hname _ hk, ih]
  | emission hes ih => rw [reread, reread, reread_thisMember, settledName_emitMethod, hall ih]

theorem areLegal_of_forall {ns : List Node} (h : ∀ n ∈ ns, isLegal n = true) :
    areLegal ns = true := by
  induction ns with
  | nil => rfl
  | cons n ns ih =>
    rw [areLegal, h n List.mem_cons_self, ih fun m hm => h m (List.mem_cons_of_mem n hm)]
    rfl

theorem isLegal_key (k : String) : isLegal (.key k) = true := by
  unfold Node.key
  split_ifs <;> rfl

theorem Assembled.isLegal (h : Assembled voc role n) : isLegal n = true := by
  induction h with
  | null | bool | number | text | constructor | toggled | binding => rfl
  | array hes ih => rw [Script.isLegal, areLegal_of_forall ih]
  | object hms hprototype ih =>
    rw [Script.isLegal, areLegal_of_forall ih, decide_eq_true hprototype]
    rfl
  | fresh he ih => rw [Script.isLegal, ih]; rfl
  | property hk hv ih => rw [Script.isLegal, isLegal_key, ih]; rfl
  | method hk hss ih =>
    rw [Script.isLegal, isLegal_key, Script.isLegal, areLegal_of_forall ih]
    rfl
  | result he ih => rw [Script.isLegal, ih]
  | assignment hk he ih => rw [Script.isLegal, Script.isLegal, ih]; rfl
  | emission hes ih => rw [Script.isLegal, Script.isLegal, areLegal_of_forall ih]; rfl

end

end Componentry.Script
