import Mathlib.Data.List.Basic
import Breakpoint.Text

/-!
# Bytes of a text

A text without halves of surrogate pairs has bytes, and they are the bytes of no other text. ASCII
text has as many of them as code points.
-/

namespace Breakpoint.Text

/-- A text is made of characters exactly if it is that of some characters. -/
theorem mapM_char?_eq_some_iff {text : Text} {chars : List Char} :
    text.mapM char? = some chars ↔ chars.map CodePoint.char = text := by
  induction text generalizing chars with
  | nil => simp [eq_comm]
  | cons c text ih =>
    rw [List.mapM_cons]
    cases c with
    | char c =>
      change (text.mapM char?).bind (fun rest => some (c :: rest)) = some chars ↔ _
      constructor
      · intro h
        obtain ⟨rest, hrest, hchars⟩ := Option.bind_eq_some_iff.1 h
        cases hchars
        rw [List.map_cons, ih.1 hrest]
      · intro h
        obtain ⟨_, rest, rfl, hc, hrest⟩ := List.map_eq_cons_iff.1 h
        cases hc
        exact Option.bind_eq_some_iff.2 ⟨rest, ih.2 hrest, rfl⟩
    | surrogate index =>
      constructor
      · intro h
        cases h
      · intro h
        obtain ⟨_, _, _, hc, _⟩ := List.map_eq_cons_iff.1 h
        cases hc

/-- A text has a string exactly if it is the text of this string. -/
theorem toString?_eq_some_iff {text : Text} {s : String} :
    text.toString? = some s ↔ ofString s = text := by
  rw [toString?, Option.map_eq_some_iff]
  constructor
  · rintro ⟨chars, htext, rfl⟩
    rw [ofString, String.toList_ofList]
    exact mapM_char?_eq_some_iff.1 htext
  · intro htext
    exact ⟨s.toList, mapM_char?_eq_some_iff.2 htext, String.ofList_toList⟩

/-- The text of some bytes is the one that they encode. -/
theorem ofUtf8?_eq_some_iff {bytes : ByteArray} {text : Text} :
    ofUtf8? bytes = some text ↔ text.utf8? = some bytes := by
  rw [ofUtf8?, utf8?, Option.map_eq_some_iff, Option.map_eq_some_iff]
  constructor
  · rintro ⟨s, hs, htext⟩
    refine ⟨s, toString?_eq_some_iff.2 htext, ?_⟩
    rw [String.fromUTF8?] at hs
    split at hs
    · cases hs
      rfl
    · cases hs
  · rintro ⟨s, hs, rfl⟩
    refine ⟨s, ?_, toString?_eq_some_iff.1 hs⟩
    exact dif_pos s.isValidUTF8

/-- Bytes that cannot be decoded are those of no text. -/
theorem ofUtf8?_eq_none_iff {bytes : ByteArray} :
    ofUtf8? bytes = none ↔ ∀ text, Text.utf8? text ≠ some bytes := by
  simp only [Option.eq_none_iff_forall_ne_some, Ne, ofUtf8?_eq_some_iff]

/-- Characters of ASCII text take a byte each. -/
theorem size_utf8Encode {chars : List Char} (h : ∀ c ∈ chars, c.toNat < 0x80) :
    chars.utf8Encode.size = chars.length := by
  induction chars with
  | nil => simp
  | cons c chars ih =>
    rw [List.forall_mem_cons] at h
    have hone : c.utf8Size = 1 := Char.utf8Size_eq_one_iff.2 (Nat.le_of_lt_succ h.1)
    rw [List.utf8Encode_cons, ByteArray.size_append, ih h.2, List.utf8Encode_singleton,
      List.size_toByteArray, String.length_utf8EncodeChar, hone, List.length_cons, Nat.add_comm]

/-- An ASCII text has as many bytes as code points. -/
theorem size_of_utf8? {text : Text} {bytes : ByteArray} (hascii : ∀ c ∈ text, c.val < 0x80)
    (h : utf8? text = some bytes) : bytes.size = text.length := by
  simp only [utf8?, toString?, Option.map_eq_some_iff, mapM_char?_eq_some_iff] at h
  obtain ⟨_, ⟨chars, rfl, rfl⟩, rfl⟩ := h
  rw [List.forall_mem_map] at hascii
  rw [List.length_map]
  exact (congrArg ByteArray.size String.toByteArray_ofList).trans (size_utf8Encode hascii)

end Breakpoint.Text
