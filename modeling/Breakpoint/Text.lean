/-!
# Text

A text is a list of code points. Text from outside may hold half of a surrogate pair without the
other half. Such a half is no character, but it counts, compares and is passed on like one.
-/

namespace Breakpoint

/-- A code point: a character, or half of a surrogate pair that stands alone. -/
inductive CodePoint where
  | char (c : Char)
  | surrogate (index : Fin 2048)
  deriving DecidableEq, Repr

namespace CodePoint

instance : Coe Char CodePoint := ⟨.char⟩

/-- The number of a code point. -/
def val : CodePoint → Nat
  | .char c => c.toNat
  | .surrogate index => 0xD800 + index.val

/-- The code point of a number. -/
def ofNat (n : Nat) : CodePoint :=
  if h : 0xD800 ≤ n ∧ n < 0xE000 then .surrogate ⟨n - 0xD800, by omega⟩ else .char (Char.ofNat n)

/-- No character has the number of half of a surrogate pair. -/
theorem toNat_lt_or_le (c : Char) : c.toNat < 0xD800 ∨ 0xE000 ≤ c.toNat := by
  rcases c.valid with h | h
  · exact .inl h
  · exact .inr h.1

/-- Code points are told apart by their numbers. -/
theorem eq_of_val_eq {a b : CodePoint} (h : a.val = b.val) : a = b := by
  cases a with
  | char c =>
    cases b with
    | char d => rw [Char.toNat_inj.1 h]
    | surrogate j =>
      have := toNat_lt_or_le c
      simp only [val] at h
      omega
  | surrogate i =>
    cases b with
    | char d =>
      have := toNat_lt_or_le d
      simp only [val] at h
      omega
    | surrogate j =>
      simp only [val] at h
      rw [Fin.eq_of_val_eq (show i.val = j.val by omega)]

end CodePoint

/-- A text. -/
abbrev Text := List CodePoint

namespace Text

/-- The text of a string. -/
def ofString (s : String) : Text := s.toList.map CodePoint.char

instance : Coe String Text := ⟨ofString⟩

/-- The order of texts by the numbers of their code points. -/
def le (a b : Text) : Bool := !List.lex (b.map CodePoint.val) (a.map CodePoint.val) Nat.blt

/-- The character of a code point, a replacement for half of a surrogate pair. -/
def shownChar : CodePoint → Char
  | .char c => c
  | .surrogate _ => '\ufffd'

/-- The string that shows a text. -/
def toShown (text : Text) : String := String.ofList (text.map shownChar)

/-- The character of a code point that is one. -/
def char? : CodePoint → Option Char
  | .char c => some c
  | .surrogate _ => none

/-- The string of a text without halves of surrogate pairs. -/
def toString? (text : Text) : Option String := (text.mapM char?).map String.ofList

/-- The bytes of a text, if it can be encoded. -/
def utf8? (text : Text) : Option ByteArray := text.toString?.map (·.toUTF8)

/-- The text of some bytes, if they encode one. -/
def ofUtf8? (bytes : ByteArray) : Option Text := (String.fromUTF8? bytes).map ofString

end Text

end Breakpoint
