import Breakpoint.Text.Blank
import Breakpoint.Text.Case.Context
import Breakpoint.Text.Case.Mapping

/-!
# Lower case

The full lower-case mapping of text. Two rules go beyond a table: capital I with a dot above
becomes two characters, so lower case may be longer than the text, and a capital sigma at the
end of a word becomes a final sigma.
-/

namespace Breakpoint.Text

/-- Whether the first code point that case rules do not look through has a case. -/
def facesCased (context : Text) : Bool :=
  match context.dropWhile isCaseIgnorable with
  | [] => false
  | c :: _ => isCased c

/-- The lower case of an ASCII character. -/
def lowerAscii (c : Char) : Char :=
  if 'A' ≤ c ∧ c ≤ 'Z' then Char.ofNat (c.toNat + 32) else c

/-- The lower case of a code point that stands between the text `before` it, nearest code point
first, and the text `after` it. -/
def lowerAt (before : Text) (point : CodePoint) (after : Text) : Text :=
  match point with
  | .surrogate _ => [point]
  | .char c =>
    if c.toNat < 0x80 then [.char (lowerAscii c)]
    else if c = 'İ' then [.char 'i', .char '\u0307']
    else if c = 'Σ' then
      if facesCased before && !facesCased after then [.char 'ς'] else [.char 'σ']
    else [.char (lowerBeyondAscii c)]

/-- Lower case of the rest of a text that follows `before`, nearest code point first. -/
def lowerAfter (before : Text) : Text → Text
  | [] => []
  | c :: rest => lowerAt before c rest ++ lowerAfter (c :: before) rest

/-- The lower case of a text. -/
def lower (text : Text) : Text := lowerAfter [] text

end Breakpoint.Text
