import Breakpoint.Text

/-!
# Spans of code points

A character property of the Unicode standard is a list of spans of code points.
-/

namespace Breakpoint.Text

/-- The code points from the first to the second, both included. -/
abbrev Span := Nat × Nat

/-- Whether one of the spans holds the code point. -/
def covers (spans : List Span) (c : CodePoint) : Bool :=
  spans.any fun span => span.1 ≤ c.val && c.val ≤ span.2

end Breakpoint.Text
