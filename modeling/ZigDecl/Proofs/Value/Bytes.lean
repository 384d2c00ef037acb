import ZigDecl.Fault
import ZigDecl.File.Directory
import ZigDecl.Value.Reader

/-! # Documents as bytes

A file holds bytes. They spell a document if they are the UTF-8 form of a text that is one; they are
garbled if they are the form of no text at all, or of a text with a whole number that has too many
digits. Main statement: reading bytes finds the document that they spell, and fails in a way of its
own on garbled ones. -/

namespace ZigDecl

namespace Value

/-- Bytes that are neither a document nor a text that breaks the grammar, and what is wrong. -/
inductive Garbled (bytes : ByteArray) : Fault → Prop
  | encoding (h : ¬ bytes.IsValidUTF8) : Garbled bytes .badEncoding
  | digits {text : String} (htext : text.toUTF8 = bytes) (h : ofJson text = .error .tooManyDigits) :
    Garbled bytes .badValue

/-- A document and the bytes that spell it. -/
def SpelledBy (v : Value RawText) (bytes : ByteArray) : Prop :=
  ∃ text : String, text.toUTF8 = bytes ∧ ofJson text = .ok v

/-- The document that bytes spell; where there is none, the fault, if it is one. -/
def ofBytes (bytes : ByteArray) : Except (Option Fault) (Value RawText) :=
  match String.fromUTF8? bytes with
  | none => .error (some .badEncoding)
  | some text =>
    match ofJson text with
    | .ok v => .ok v
    | .error .malformed => .error none
    | .error .tooManyDigits => .error (some .badValue)

variable {bytes : ByteArray}

theorem fromUTF8?_eq_none_iff : String.fromUTF8? bytes = none ↔ ¬ bytes.IsValidUTF8 := by
  simp [String.fromUTF8?]

theorem fromUTF8?_eq_some_iff {text : String} :
    String.fromUTF8? bytes = some text ↔ text.toUTF8 = bytes := by
  unfold String.fromUTF8?
  constructor
  · intro h
    split at h
    · cases h
      rfl
    · cases h
  · rintro rfl
    exact dif_pos text.isValidUTF8

theorem ofBytes_toUTF8 {text : String} (h : text.toUTF8 = bytes) :
    ofBytes bytes = match ofJson text with
      | .ok v => .ok v
      | .error .malformed => .error none
      | .error .tooManyDigits => .error (some .badValue) := by
  rw [ofBytes, fromUTF8?_eq_some_iff.mpr h]

theorem garbled_iff {f : Fault} : Garbled bytes f ↔ ofBytes bytes = .error (some f) := by
  constructor
  · intro h
    cases h with
    | encoding h => rw [ofBytes, fromUTF8?_eq_none_iff.mpr h]
    | digits htext h => rw [ofBytes_toUTF8 htext, h]
  · intro h
    rw [ofBytes] at h
    split at h
    · next hnone =>
      cases h
      exact .encoding (fromUTF8?_eq_none_iff.mp hnone)
    · next text htext =>
      split at h
      · cases h
      · cases h
      · next hdigits =>
        cases h
        exact .digits (fromUTF8?_eq_some_iff.mp htext) hdigits

theorem spelledBy_iff {v : Value RawText} : v.SpelledBy bytes ↔ ofBytes bytes = .ok v := by
  constructor
  · rintro ⟨text, htext, hv⟩
    rw [ofBytes_toUTF8 htext, hv]
  · intro h
    rw [ofBytes] at h
    split at h
    · cases h
    · next text htext =>
      split at h
      · next hv =>
        cases h
        exact ⟨text, fromUTF8?_eq_some_iff.mp htext, hv⟩
      · cases h
      · cases h

end Value

/-! ## A file with given bytes -/

/-- A directory that holds one file. -/
def Directory.single (bytes : ByteArray) : Directory := ⟨[], [(["a.json"], bytes)], []⟩

theorem Path.ofText_single : Path.ofText "a.json" = ⟨"", ["a.json"]⟩ := by
  have hsplit : "a.json".splitOn "/" = ["a.json"] := by
    simp +decide [String.splitOn, String.splitOnAux]
  rw [ofText, hsplit]
  rfl

theorem Path.ofText_empty : Path.ofText "" = ⟨"", []⟩ := by
  have hsplit : "".splitOn "/" = [""] := by
    simp +decide [String.splitOn, String.splitOnAux]
  rw [ofText, hsplit]
  rfl

theorem Directory.read_single (bytes : ByteArray) :
    (single bytes).read (Path.ofText "a.json") = .ok bytes := by
  rw [Path.ofText_single]
  rfl

end ZigDecl
