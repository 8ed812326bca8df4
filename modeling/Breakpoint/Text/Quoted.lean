import Breakpoint.Text.Unprintable

/-!
# Quoted text

Messages show a text between quotes. The quote is single unless the text holds a single quote
and no double one. The quote itself and the backslash are escaped, tab and the two line ends
have short escapes, and every other code point without a visible form is written by its number
with two, four or eight hexadecimal digits. The plain form shows no character beyond ASCII.
-/

namespace Breakpoint.Text

/-- The quote that surrounds a text. -/
def quoteMark (text : Text) : Char :=
  if text.contains (.char '\x27') && !text.contains (.char '\x22') then '\x22' else '\x27'

/-- The last `width` hexadecimal digits of a number. -/
def hexDigits : (width : Nat) → Nat → List Char
  | 0, _ => []
  | width + 1, n => hexDigits width (n / 16) ++ [Nat.digitChar (n % 16)]

/-- A code point by its number. -/
def escapeNumber (n : Nat) : List Char :=
  if n < 0x100 then '\x5c' :: 'x' :: hexDigits 2 n
  else if n < 0x10000 then '\x5c' :: 'u' :: hexDigits 4 n
  else '\x5c' :: 'U' :: hexDigits 8 n

/-- A code point inside quotes. -/
def escape (mark : Char) (c : CodePoint) : Text :=
  if c = .char mark ∨ c = .char '\x5c' then [.char '\x5c', c]
  else if c = .char '\t' then "\\t"
  else if c = .char '\n' then "\\n"
  else if c = .char '\r' then "\\r"
  else if isPrintable c then [c]
  else (escapeNumber c.val).map .char

/-- The text between quotes. -/
def quoted (text : Text) : Text :=
  let mark := quoteMark text
  .char mark :: text.flatMap (escape mark) ++ [.char mark]

/-- The plain form of a text between quotes. -/
def plain (text : Text) : Text :=
  text.flatMap fun c => if c.val < 0x80 then [c] else (escapeNumber c.val).map .char

end Breakpoint.Text
