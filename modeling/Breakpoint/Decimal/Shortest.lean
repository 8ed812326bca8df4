import Breakpoint.Decimal.Binary
import Breakpoint.Decimal.Digits

/-!
# The fewest digits that read back

A double is written with the fewest significant digits that read back as the same double, and
of those with the nearest, an exact tie going to the even digit. The reals that read back as
the double form an interval, which holds its ends when the significand is even.
-/

namespace Breakpoint.Decimal

/-- The reals that read back as a double, as a quotient of the ends by one denominator. -/
structure Interval where
  low : Nat
  value : Nat
  high : Nat
  denominator : Nat
  closed : Bool

/-- The interval of the positive double `significand * 2 ^ exponent`. Below a power of two the
doubles lie twice as dense. -/
def intervalOf (significand : Nat) (exponent : Int) : Interval :=
  let below := if significand = hiddenBit ∧ exponent ≠ -1074 then 1 else 2
  let (factor, denominator) :=
    match exponent - 2 with
    | .ofNat n => (Nat.pow 2 n, 1)
    | .negSucc n => (1, Nat.pow 2 (n + 1))
  { low := (4 * significand - below) * factor
    value := 4 * significand * factor
    high := (4 * significand + 2) * factor
    denominator
    closed := significand % 2 = 0 }

/-- Whether the grid point `number * bottom / top` reads back as the double. -/
def Interval.holds (interval : Interval) (number top bottom : Nat) : Bool :=
  let point := number * bottom * interval.denominator
  if interval.closed then interval.low * top ≤ point && point ≤ interval.high * top
  else interval.low * top < point && point < interval.high * top

/-- The point with `count` significant digits that reads back as the double, if there is one:
of the two neighbours of the value on that grid the nearer one that does. -/
def Interval.point? (interval : Interval) (count : Nat) : Option Digits :=
  let power := leadingPower interval.value interval.denominator
  let (top, bottom) := scale 1 1 (count - 1 - power)
  let numerator := interval.value * top
  let denominator := interval.denominator * bottom
  let below := numerator / denominator
  let nearest := roundHalfEven numerator denominator
  let other := if nearest = below then below + 1 else below
  let digits (number : Nat) : Digits :=
    if number = Nat.pow 10 count then ⟨Nat.pow 10 (count - 1), power + 1⟩ else ⟨number, power⟩
  if interval.holds nearest top bottom then some (digits nearest)
  else if interval.holds other top bottom then some (digits other)
  else none

/-- The shortest decimal of a positive double; seventeen digits always read back. -/
def shortest (significand : Nat) (exponent : Int) : Digits :=
  let interval := intervalOf significand exponent
  match (List.range 16).findSome? fun n => interval.point? (n + 1) with
  | some digits => digits
  | none => significant 17 interval.value interval.denominator

end Breakpoint.Decimal
