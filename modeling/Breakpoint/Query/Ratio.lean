import Breakpoint.Extent

/-!
# Ratios of sizes

The ratio of a width to a height, also of empty sizes.
-/

namespace Breakpoint

/-- The ratio of two numbers: by zero it is infinite with the sign of the first, and of two
zeros it is no number. -/
def signedRatio (isNegative : Bool) (numerator denominator : Float) : Float :=
  if denominator == 0 then
    if numerator == 0 then 0 / 0 else if isNegative then -(1 / 0) else 1 / 0
  else numerator / denominator

/-- The ratio of two numbers. -/
def ratio (numerator denominator : Float) : Float :=
  signedRatio (numerator < 0) numerator denominator

/-- The ratio of a width to a height. -/
def Extent.ratio (width height : Extent) : Float :=
  signedRatio width.isNegative width.value height.value

/-- The ratio of two extents that are numbers is the ratio of the numbers. -/
theorem Extent.ratio_ofFloat (width height : Float) :
    (ofFloat width).ratio (ofFloat height) = Breakpoint.ratio width height := rfl

end Breakpoint
