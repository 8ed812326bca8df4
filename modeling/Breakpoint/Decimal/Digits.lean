/-!
# Decimal digits of a quotient

Positive rationals as quotients of natural numbers: where the first digit stands, and the
digits when the quotient is cut to a given number of them.
-/

namespace Breakpoint.Decimal

/-- How many decimal digits a number has. -/
def digitCount (n : Nat) : Nat := (Nat.toDigits 10 n).length

/-- The quotient of two numbers scaled by a power of ten, as a quotient again. -/
def scale (numerator denominator : Nat) : Int → Nat × Nat
  | .ofNat n => (numerator * Nat.pow 10 n, denominator)
  | .negSucc n => (numerator, denominator * Nat.pow 10 (n + 1))

/-- The power of ten of the first digit of a positive quotient. -/
def leadingPower (numerator denominator : Nat) : Int :=
  let guess : Int := digitCount numerator - digitCount denominator
  let (top, bottom) := scale numerator denominator (-guess)
  if bottom ≤ top then guess else guess - 1

/-- The quotient rounded to a natural number, a half to the even neighbour. -/
def roundHalfEven (numerator denominator : Nat) : Nat :=
  let whole := numerator / denominator
  let rest := 2 * (numerator % denominator)
  if rest < denominator then whole
  else if denominator < rest then whole + 1
  else whole + whole % 2

/-- A positive decimal: its digits as a number, and the power of ten of the first digit. -/
structure Digits where
  number : Nat
  power : Int
  deriving DecidableEq

/-- A positive quotient rounded to a number of significant digits. -/
def significant (count numerator denominator : Nat) : Digits :=
  let power := leadingPower numerator denominator
  let (top, bottom) := scale numerator denominator (count - 1 - power)
  let number := roundHalfEven top bottom
  if number = Nat.pow 10 count then ⟨Nat.pow 10 (count - 1), power + 1⟩ else ⟨number, power⟩

end Breakpoint.Decimal
