import Breakpoint.Decimal.Reading

/-!
# Extents

The width or the height of a viewport. A size that was written as no number may bear a sign,
which comes to light in one place: over a height of zero, the sign of the width is the sign of
the ratio.
-/

namespace Breakpoint

/-- A width or a height, and whether it bears the sign of numbers below zero. -/
structure Extent where
  value : Float
  isNegative : Bool
  deriving DecidableEq

namespace Extent

/-- The extent of a number. -/
def ofFloat (value : Float) : Extent := ⟨value, value < 0⟩

instance : Coe Float Extent := ⟨ofFloat⟩

/-- The extent that a text writes. -/
def read? (text : Text) : Option Extent :=
  (Decimal.signed? text).map fun (isNegative, value) => { value, isNegative }

end Extent

end Breakpoint
