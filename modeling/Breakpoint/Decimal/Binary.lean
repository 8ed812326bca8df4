/-!
# The parts of a double

A finite double is an integer times a power of two. Reading the two numbers off its bits makes
every question about decimal digits one about natural numbers.
-/

namespace Breakpoint.Decimal

/-- A double by its parts: a finite one is `significand * 2 ^ exponent` with a sign. -/
inductive Parts where
  | nan
  | infinite (negative : Bool)
  | finite (negative : Bool) (significand : Nat) (exponent : Int)
  deriving DecidableEq

/-- The significand of the smallest normal number. -/
def hiddenBit : Nat := Nat.pow 2 52

/-- The parts of a double. -/
def partsOf (x : Float) : Parts :=
  let bits := x.toBits.toNat
  let negative := Nat.pow 2 63 ≤ bits
  let biased := bits / hiddenBit % 2048
  let fraction := bits % hiddenBit
  if biased = 2047 then if fraction = 0 then .infinite negative else .nan
  else if biased = 0 then .finite negative fraction (-1074)
  else .finite negative (hiddenBit + fraction) (biased - 1075)

/-- The integer part of a finite double, cut toward zero. -/
def truncate (negative : Bool) (significand : Nat) (exponent : Int) : Int :=
  let magnitude :=
    match exponent with
    | .ofNat n => significand * Nat.pow 2 n
    | .negSucc n => significand / Nat.pow 2 (n + 1)
  if negative then -(magnitude : Int) else magnitude

/-- Whether a double is exactly an integer. -/
def isInt (x : Float) (n : Int) : Bool :=
  match partsOf x with
  | .finite negative significand exponent =>
    let signed : Int := if negative then -(significand : Int) else significand
    match exponent with
    | .ofNat e => signed * Nat.pow 2 e == n
    | .negSucc e => signed == n * Nat.pow 2 (e + 1)
  | .nan | .infinite _ => false

end Breakpoint.Decimal
