import Componentry.Proofs.Script.Printing

/-!
# Text before it is indented

A sketch is a text whose margins are left open: pieces of text, and ends of lines of which it is
known by how many levels the next line is further in. It becomes a text when it is laid out at a
level, with margins that may be missing.
-/

namespace Componentry.Script

inductive Segment where
  | text (s : String)
  /-- The end of a line, with the next one some levels further in. -/
  | lineEnd (depth : Nat)

abbrev Sketch := List Segment

namespace Sketch

/-- The text of a sketch. A margin is asked for only where a line ends. -/
def layOut (margin : Nat → Result String) (level : Nat) : Sketch → Result String
  | [] => .ok ""
  | .text s :: rest => do return s ++ (← layOut margin level rest)
  | .lineEnd depth :: rest => do
    let m ← margin (level + depth)
    return "\n" ++ m ++ (← layOut margin level rest)

/-- The text of a sketch for an indentation that is known. -/
def laid (ind : String) (level : Nat) : Sketch → String
  | [] => ""
  | .text s :: rest => s ++ laid ind level rest
  | .lineEnd depth :: rest => "\n" ++ Text.repeated ind (level + depth) ++ laid ind level rest

def deeper (k : Sketch) : Sketch := k.map fun
  | .text s => .text s
  | .lineEnd depth => .lineEnd (depth + 1)

/-- Items one after the other, with a separator between them. -/
def joined (separator : String) : List Sketch → Sketch
  | [] => []
  | [k] => k
  | k :: rest => k ++ .text separator :: joined separator rest

/-- Items on lines of their own, one level further in. -/
def broken (opening closing separator : String) (items : List Sketch) : Sketch :=
  .text opening :: (joined separator (items.map (.lineEnd 1 :: ·.deeper)) ++
    [.lineEnd 0, .text closing])

def wrapped (wrap : Bool) (k : Sketch) : Sketch :=
  if wrap then .text "(" :: (k ++ [.text ")"]) else k

/-- No line ends inside a piece of text. -/
def IsSolid (k : Sketch) : Prop := ∀ s, .text s ∈ k → '\n' ∉ s.toList

variable {margin : Nat → Result String} {ind : String} {level : Nat}

@[simp] theorem layOut_nil : layOut margin level [] = .ok "" := rfl

@[simp] theorem layOut_text (s : String) : layOut margin level [.text s] = .ok s :=
  congrArg Except.ok (String.append_empty)

theorem layOut_append (k l : Sketch) : layOut margin level (k ++ l) = (do
    let s ← layOut margin level k
    return s ++ (← layOut margin level l)) := by
  induction k with
  | nil => cases h : layOut margin level l <;> simp [h]
  | cons x k ih =>
    cases x with
    | text s =>
      rw [List.cons_append, layOut, layOut, ih]
      cases layOut margin level k <;> cases layOut margin level l <;>
        simp [String.append_assoc]
    | lineEnd depth =>
      rw [List.cons_append, layOut, layOut, ih]
      cases margin (level + depth) <;> cases layOut margin level k <;>
        cases layOut margin level l <;> simp [String.append_assoc]

theorem layOut_wrapped (wrap : Bool) (k : Sketch) :
    layOut margin level (wrapped wrap k) = Script.wrapped wrap <$> layOut margin level k := by
  cases wrap with
  | false => cases h : layOut margin level k <;> simp [wrapped, Script.wrapped, h]
  | true => cases h : layOut margin level k <;>
      simp [wrapped, Script.wrapped, layOut, layOut_append, h, String.append_assoc]

/-- The margins of all levels, made of one indentation. -/
def margins (ind : String) (level : Nat) : Result String := .ok (Text.repeated ind level)

theorem layOut_ok (k : Sketch) : layOut (margins ind) level k = .ok (laid ind level k) := by
  induction k with
  | nil => rfl
  | cons x k ih => cases x <;> rw [layOut, ih] <;> rfl

theorem joined_cons_cons (separator : String) (k l : Sketch) (items : List Sketch) :
    joined separator (k :: l :: items) = k ++ .text separator :: joined separator (l :: items) :=
  rfl

theorem layOut_joined (separator : String) (items : List Sketch) :
    layOut margin level (joined separator items) =
      Text.join separator <$> items.mapM (layOut margin level) := by
  induction items with
  | nil => rfl
  | cons k items ih =>
    cases items with
    | nil =>
      rw [joined, List.mapM_cons, List.mapM_nil]
      cases layOut margin level k <;> rfl
    | cons l items =>
      simp only [joined_cons_cons, layOut_append, layOut, ih, List.mapM_cons]
      cases layOut margin level k with
      | error e => rfl
      | ok s =>
        cases layOut margin level l with
        | error e => rfl
        | ok t =>
          cases List.mapM (layOut margin level) items with
          | error e => rfl
          | ok ss => simp [Text.join, String.append_assoc]

theorem join_lines (separator inner : String) {ss : List String} (h : ss ≠ []) :
    Text.join separator (ss.map ("\n" ++ inner ++ ·)) =
      "\n" ++ Text.join (separator ++ "\n") (ss.map (inner ++ ·)) := by
  induction ss with
  | nil => exact absurd rfl h
  | cons s ss ih =>
    cases ss with
    | nil => simp [Text.join, String.append_assoc]
    | cons t ss =>
      have hrest := ih (List.cons_ne_nil t ss)
      simp [Text.join, String.append_assoc] at hrest ⊢
      rw [hrest]

theorem layOut_deeper (k : Sketch) :
    layOut margin level k.deeper = layOut margin (level + 1) k := by
  induction k with
  | nil => rfl
  | cons x k ih =>
    cases x with
    | text s =>
      change (do return s ++ (← layOut margin level (deeper k))) = _
      rw [ih]
      rfl
    | lineEnd depth =>
      change (do
        let m ← margin (level + (depth + 1))
        return "\n" ++ m ++ (← layOut margin level (deeper k))) = _
      rw [ih, Nat.add_comm depth, ← Nat.add_assoc]
      rfl

theorem mapM_lines {inner : String} (hinner : margin (level + 1) = .ok inner)
    (items : List Sketch) :
    (items.map fun k => Segment.lineEnd 1 :: k.deeper).mapM (layOut margin level) =
      List.map ("\n" ++ inner ++ ·) <$> items.mapM (layOut margin (level + 1)) := by
  induction items with
  | nil => rfl
  | cons k items ih =>
    rw [List.map_cons, List.mapM_cons, List.mapM_cons, ih, layOut, layOut_deeper, hinner]
    cases layOut margin (level + 1) k <;>
      cases List.mapM (layOut margin (level + 1)) items <;> rfl

/-- Items on lines of their own are written as the printer writes them: the margin of the items is
asked for first, and the outer one behind the last item. -/
theorem layOut_broken (opening closing separator : String) {items : List Sketch} (h : items ≠ []) :
    layOut margin level (broken opening closing separator items) = (do
      let inner ← margin (level + 1)
      let texts ← items.mapM (layOut margin (level + 1))
      let outer ← margin level
      return Script.broken opening closing separator inner outer texts) := by
  cases hinner : margin (level + 1) with
  | error e =>
    obtain ⟨k, items, rfl⟩ := List.exists_cons_of_ne_nil h
    cases items <;> simp [broken, joined, layOut, hinner]
  | ok inner =>
    rw [broken, layOut, layOut_append, layOut_joined, mapM_lines hinner]
    cases htexts : items.mapM (layOut margin (level + 1)) with
    | error e => rfl
    | ok texts =>
      have hne : texts ≠ [] := by
        obtain ⟨k, items, rfl⟩ := List.exists_cons_of_ne_nil h
        rw [List.mapM_cons] at htexts
        obtain ⟨s, -, htexts⟩ := Result.bind_eq_ok.mp htexts
        obtain ⟨ss, -, htexts⟩ := Result.bind_eq_ok.mp htexts
        cases htexts
        exact List.cons_ne_nil s ss
      have hjoin := join_lines separator inner hne
      simp only [String.append_assoc] at hjoin
      cases houter : margin level with
      | error e => simp [layOut, houter]
      | ok outer => simp [layOut, houter, hjoin, Script.broken, String.append_assoc]

@[simp] theorem isSolid_nil : IsSolid [] := nofun

@[simp] theorem isSolid_text {s : String} {k : Sketch} :
    IsSolid (.text s :: k) ↔ '\n' ∉ s.toList ∧ k.IsSolid := by
  simp [IsSolid]

@[simp] theorem isSolid_lineEnd {depth : Nat} {k : Sketch} :
    IsSolid (.lineEnd depth :: k) ↔ k.IsSolid := by
  simp [IsSolid]

@[simp] theorem isSolid_append {k l : Sketch} : IsSolid (k ++ l) ↔ k.IsSolid ∧ l.IsSolid := by
  simp [IsSolid, or_imp, forall_and]

@[simp] theorem isSolid_wrapped {wrap : Bool} {k : Sketch} :
    (wrapped wrap k).IsSolid ↔ k.IsSolid := by
  cases wrap <;> simp [wrapped]

@[simp] theorem isSolid_deeper {k : Sketch} : k.deeper.IsSolid ↔ k.IsSolid := by
  induction k with
  | nil => rfl
  | cons x k ih =>
    cases x with
    | text s => exact isSolid_text.trans ((and_congr_right fun _ => ih).trans isSolid_text.symm)
    | lineEnd depth => exact isSolid_lineEnd.trans (ih.trans isSolid_lineEnd.symm)

theorem isSolid_joined {separator : String} (h : '\n' ∉ separator.toList) {items : List Sketch} :
    (joined separator items).IsSolid ↔ ∀ k ∈ items, k.IsSolid := by
  induction items with
  | nil => simp [joined]
  | cons k items ih =>
    cases items with
    | nil => simp [joined]
    | cons l items =>
      rw [joined_cons_cons, isSolid_append, isSolid_text, ih, List.forall_mem_cons (a := k),
        and_iff_right h]

theorem isSolid_broken {opening closing separator : String} (hopening : '\n' ∉ opening.toList)
    (hclosing : '\n' ∉ closing.toList) (hseparator : '\n' ∉ separator.toList)
    {items : List Sketch} :
    (broken opening closing separator items).IsSolid ↔ ∀ k ∈ items, k.IsSolid := by
  simp [broken, isSolid_joined hseparator, hopening, hclosing]

end Sketch

end Componentry.Script
