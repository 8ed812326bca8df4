import Breakpoint.Text

/-!
# Letters in either case

Keywords are ASCII and may be written in either case. Where a keyword is matched in the wide
sense, three letters have further spellings outside ASCII: dotted and dotless I for `i`, the
long s for `s`, and the Kelvin sign for `k`.
-/

namespace Breakpoint.Text

/-- The code point is the lower-case ASCII letter `letter`, or its capital, or the same
character where `letter` has no case. -/
def isAsciiSpelling (letter : Char) (c : CodePoint) : Bool :=
  c == .char letter || (letter.isLower && c.val + 32 == letter.toNat)

/-- The code point is an ASCII spelling of the letter, or one of its spellings outside ASCII. -/
def isWideSpelling (letter : Char) (c : CodePoint) : Bool :=
  isAsciiSpelling letter c
    || (letter == 'i' && (c == .char 'İ' || c == .char 'ı'))
    || (letter == 's' && c == .char 'ſ')
    || (letter == 'k' && c == .char '\u212a')

/-- Splits off a spelling of `word` at the start of the text, each code point by its own
test. -/
def stripSpelling (spells : Char → CodePoint → Bool) : List Char → Text → Option Text
  | [], text => some text
  | _ :: _, [] => none
  | letter :: word, c :: text => if spells letter c then stripSpelling spells word text else none

/-- What is left after a spelling of a word is the text without as many code points. -/
theorem stripSpelling_eq_drop {spells : Char → CodePoint → Bool} {word : List Char}
    {text rest : Text} (h : stripSpelling spells word text = some rest) :
    rest = text.drop word.length ∧ word.length ≤ text.length := by
  induction word generalizing text with
  | nil => simp_all [stripSpelling]
  | cons letter word ih =>
    cases text with
    | nil => simp [stripSpelling] at h
    | cons c text =>
      rw [stripSpelling] at h
      split at h
      · simpa using ih h
      · cases h

end Breakpoint.Text
