import Breakpoint.Text

/-!
# Blanks

Two sets of blank characters are in use: the six of ASCII text, and those of the Unicode
standard together with the four separators of ASCII. Trimming removes blanks of the second set
from both ends and keeps a contiguous piece of the text.
-/

namespace Breakpoint.Text

/-- The blanks of ASCII text: space, tab, line feed, carriage return, form feed and vertical
tab. -/
def isAsciiBlank (c : CodePoint) : Bool := c.val == 0x20 || (0x09 ≤ c.val && c.val ≤ 0x0D)

/-- A blank of any script, the four ASCII separators included. -/
def isBlank (c : CodePoint) : Bool :=
  isAsciiBlank c || (0x1C ≤ c.val && c.val ≤ 0x1F) || c.val == 0x85 || c.val == 0xA0
    || c.val == 0x1680 || (0x2000 ≤ c.val && c.val ≤ 0x200A) || c.val == 0x2028
    || c.val == 0x2029 || c.val == 0x202F || c.val == 0x205F || c.val == 0x3000

/-- Each ASCII blank is a blank. -/
theorem isBlank_of_isAsciiBlank {c : CodePoint} (h : isAsciiBlank c = true) :
    isBlank c = true := by
  simp [isBlank, h]

/-- The text without its trailing code points that pass the test. -/
def dropTrailing (p : CodePoint → Bool) (text : Text) : Text :=
  (text.reverse.dropWhile p).reverse

/-- The text without the blanks at its two ends. -/
def trim (text : Text) : Text := dropTrailing isBlank (text.dropWhile isBlank)

/-- Dropping trailing code points leaves a prefix. -/
theorem dropTrailing_isPrefix (p : CodePoint → Bool) (text : Text) :
    dropTrailing p text <+: text := by
  have h : (text.reverse.dropWhile p) <:+ text.reverse := List.dropWhile_suffix p
  have h := List.reverse_prefix.2 h
  simpa [dropTrailing] using h

/-- Trimming keeps a contiguous piece of the text. -/
theorem trim_isInfix (text : Text) : trim text <:+: text :=
  (dropTrailing_isPrefix isBlank _).isInfix.trans (List.dropWhile_suffix isBlank).isInfix

/-- Trimming never lengthens a text. -/
theorem length_trim_le (text : Text) : (trim text).length ≤ text.length :=
  (trim_isInfix text).length_le

end Breakpoint.Text
