import Componentry.Json.Writer
import Componentry.Proofs.Script.Carried
import Componentry.Proofs.Value.Parts

/-!
# What is written

Whatever is written of a value, as far as it can be written, has no carriage return in it. So it is
read from a file as it was written.
-/

namespace Componentry.Json

/-- A draft without carriage returns. -/
def Draft.IsUnreturned (d : Draft) : Prop := '\r' ∉ d.text.toList

theorem isUnreturned_stopped (f : Fault) : (Draft.stopped f).IsUnreturned := List.not_mem_nil

theorem not_mem_append {s t : String} (hs : '\r' ∉ s.toList) (ht : '\r' ∉ t.toList) :
    '\r' ∉ (s ++ t).toList := by
  rw [String.toList_append, List.mem_append]
  exact not_or.mpr ⟨hs, ht⟩

namespace Draft.IsUnreturned

variable {d e : Draft}

theorem followedBy (hd : d.IsUnreturned) (he : e.IsUnreturned) :
    (d.followedBy e).IsUnreturned := by
  unfold Draft.followedBy
  cases d.stop with
  | none => exact not_mem_append hd he
  | some f => exact hd

theorem behind (hd : d.IsUnreturned) {before : String} (hbefore : '\r' ∉ before.toList)
    (item : Value) : (d.behind before item).IsUnreturned := by
  have hfollowed : ((Draft.done before).followedBy d).IsUnreturned := followedBy hbefore hd
  unfold Draft.behind
  split
  · exact hd
  · exact hfollowed

end Draft.IsUnreturned

theorem noReturn_unicodeEscape (c : Char) : '\r' ∉ unicodeEscape c := by
  have hhex := not_mem_hex (show isNumeralChar '\r' = false by decide)
  unfold unicodeEscape
  dsimp only
  split_ifs <;> simp [hhex]

theorem noReturn_escapedChar (asciiOnly : Bool) (c : Char) : '\r' ∉ escapedChar asciiOnly c := by
  unfold escapedChar
  split_ifs with hquote _ hreturn
  · rcases hquote with rfl | rfl <;> decide
  iterate 5 · decide
  · exact noReturn_unicodeEscape c
  · rw [List.mem_singleton]
    exact fun h => hreturn h.symm

theorem noReturn_quotedText (asciiOnly : Bool) (s : String) :
    '\r' ∉ (quotedText asciiOnly s).toList := by
  simp [quotedText, noReturn_escapedChar]

section

variable (f : Format) (level : Nat)

theorem noReturn_gap : '\r' ∉ (f.gap level).toList := by
  unfold Format.gap
  split_ifs
  · exact not_mem_append (by decide) (Text.not_mem_repeated (by decide) level)
  · exact List.not_mem_nil

theorem noReturn_separator : '\r' ∉ (f.separator level).toList := by
  unfold Format.separator
  split_ifs
  · exact not_mem_append (by decide) (noReturn_gap f level)
  · decide

end

theorem noReturn_numeral {i : Int} {s : String} (h : numeral i = .ok s) : '\r' ∉ s.toList := by
  unfold numeral at h
  cases hi : Text.integer i with
  | none =>
    rw [hi] at h
    cases h
  | some t =>
    rw [hi] at h
    cases h
    rw [(Text.integer_eq_some.mp hi).2]
    exact (isNumeral_decimal i).not_mem (by decide)

theorem noReturn_scalar {f : Format} {v : Value} {s : String} (h : scalar f v = .ok s) :
    '\r' ∉ s.toList := by
  unfold scalar at h
  split at h
  iterate 3
    · cases h
      decide
  · exact noReturn_numeral h
  · cases h
    exact (Double.isNumeral_written NumeralStyle.isNumeral_document _).not_mem (by decide)
  · cases h
    exact noReturn_quotedText f.asciiOnly _
  · obtain ⟨t, -, h⟩ := Result.bind_eq_ok.mp h
    cases h
    exact noReturn_quotedText f.asciiOnly t

theorem isUnreturned_writeScalar (f : Format) (v : Value) : (writeScalar f v).IsUnreturned := by
  unfold writeScalar
  cases h : scalar f v with
  | error e => exact isUnreturned_stopped e
  | ok s => exact noReturn_scalar h

section

variable {f : Format}

theorem isUnreturned_writeRest {xs : List Value}
    (h : ∀ x ∈ xs, ∀ level, (writeValue f level x).IsUnreturned) (level : Nat) :
    (writeRest f level xs).IsUnreturned := by
  induction xs with
  | nil => exact List.not_mem_nil
  | cons x xs ih =>
    obtain ⟨hfirst, hrest⟩ := List.forall_mem_cons.mp h
    rw [writeRest]
    exact ((hfirst level).behind (noReturn_separator f level) x).followedBy (ih hrest)

theorem isUnreturned_writeItems {xs : List Value}
    (h : ∀ x ∈ xs, ∀ level, (writeValue f level x).IsUnreturned) (level : Nat) :
    (writeItems f level xs).IsUnreturned := by
  cases xs with
  | nil => exact (by decide : '\r' ∉ "[]".toList)
  | cons x xs =>
    obtain ⟨hfirst, hrest⟩ := List.forall_mem_cons.mp h
    have hopening : '\r' ∉ ("[" ++ f.gap (level + 1)).toList :=
      not_mem_append (by decide) (noReturn_gap f _)
    have hclosing : (Draft.done (f.gap level ++ "]")).IsUnreturned :=
      not_mem_append (noReturn_gap f level) (by decide)
    rw [writeItems]
    exact (((hfirst _).behind hopening x).followedBy (isUnreturned_writeRest hrest _)).followedBy
      hclosing

theorem isUnreturned_writeEntries {es : List (Value × Value)}
    (h : ∀ e ∈ es, ∀ level, (writeValue f level e.2).IsUnreturned) (level : Nat)
    {before : String} (hbefore : '\r' ∉ before.toList) :
    (writeEntries f level before es).IsUnreturned := by
  induction es generalizing before with
  | nil => exact List.not_mem_nil
  | cons e es ih =>
    obtain ⟨hfirst, hrest⟩ := List.forall_mem_cons.mp h
    obtain ⟨key, v⟩ := e
    rw [writeEntries]
    cases nameOf key with
    | error e => exact isUnreturned_stopped e
    | ok name =>
      have hname : (Draft.done (before ++ quotedText f.asciiOnly name ++ ": ")).IsUnreturned :=
        not_mem_append (not_mem_append hbefore (noReturn_quotedText f.asciiOnly name)) (by decide)
      exact (hname.followedBy (hfirst level)).followedBy (ih hrest (noReturn_separator f level))

end

theorem isUnreturned_writeValue (f : Format) (level : Nat) (v : Value) :
    (writeValue f level v).IsUnreturned := by
  induction v using Value.partsInduction generalizing level with
  | step v ih =>
    cases v with
    | list items => exact isUnreturned_writeItems (fun x hx level => ih x hx level) level
    | tuple items => exact isUnreturned_writeItems (fun x hx level => ih x hx level) level
    | map es =>
      cases es with
      | nil => exact (by decide : '\r' ∉ "\x7b\x7d".toList)
      | cons e es =>
        have hopening : (Draft.done ("\x7b" ++ f.gap (level + 1))).IsUnreturned :=
          not_mem_append (by decide) (noReturn_gap f _)
        have hclosing : (Draft.done (f.gap level ++ "\x7d")).IsUnreturned :=
          not_mem_append (noReturn_gap f level) (by decide)
        have hall : (writeEntries f (level + 1) "" (e :: es)).IsUnreturned :=
          isUnreturned_writeEntries (fun e he level => ih e.2 (List.mem_map_of_mem he) level)
            (level + 1) List.not_mem_nil
        exact (hopening.followedBy hall).followedBy hclosing
    | _ => exact isUnreturned_writeScalar f _

end Componentry.Json
