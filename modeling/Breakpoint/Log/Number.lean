import Breakpoint.Decimal.Layout

/-!
# Numbers in log lines

A field of a log line shows a whole number by its digits to base ten, eight or sixteen, with a
number of decimal places, or with an exponent. The general form has an exponent only where the
number has more digits than are asked for.
-/

namespace Breakpoint

/-- How a field shows a number. -/
inductive NumberForm where
  | decimal
  | octal
  | hexadecimal
  /-- Digits with decimal places. -/
  | places
  | exponent
  /-- A number of digits in all. -/
  | general
  deriving DecidableEq, Repr

namespace NumberForm

/-- The zeros that digits lack of `count`. -/
def zeros (count : Nat) (digits : List Char) : List Char :=
  List.replicate (count - digits.length) '0'

/-- Digits are filled up to the length that is asked for. -/
theorem length_zeros_append (count : Nat) (digits : List Char) :
    (zeros count digits ++ digits).length = max count digits.length := by
  simp only [zeros, List.length_append, List.length_replicate]
  omega

/-- The first digits of a number, rounded to `count` of them or followed by zeros, and the power
of ten of the first one. -/
def leading (count n : Nat) : List Char × Nat :=
  let digits := Nat.toDigits 10 n
  if digits.length ≤ count then (digits ++ zeros count digits, digits.length - 1)
  else
    let rounded := Decimal.significant count n 1
    (Nat.toDigits 10 rounded.number, rounded.power.toNat)

/-- Digits with a point before those from `whole` on. A point before nothing is left out unless
it is to be kept. -/
def pointed (keepPoint : Bool) (whole : Nat) (digits : List Char) : List Char :=
  match digits.drop whole with
  | [] => if keepPoint then digits ++ ['.'] else digits
  | fraction => digits.take whole ++ '.' :: fraction

/-- Digits without the zeros at their end, as far as those after the first `whole` go. -/
def stripAfter (whole : Nat) (digits : List Char) : List Char :=
  digits.take whole ++ Decimal.stripZeros (digits.drop whole)

/-- What stands before the digits in the form that names its base. -/
def mark : NumberForm → List Char
  | .octal => ['0', 'o']
  | .hexadecimal => ['0', 'x']
  | _ => []

/-- The digits of a number. The full form keeps points before nothing, and zeros at the end of
the general form. -/
def digits (form : NumberForm) (full : Bool) (precision : Option Nat) (n : Nat) : List Char :=
  let inBase (base : Nat) : List Char :=
    let shown := Nat.toDigits base n
    zeros (precision.getD 0) shown ++ shown
  let count := precision.getD 6
  match form with
  | .decimal => inBase 10
  | .octal => inBase 8
  | .hexadecimal => inBase 16
  | .places =>
    let whole := Nat.toDigits 10 n
    pointed full whole.length (whole ++ List.replicate count '0')
  | .exponent =>
    let (shown, power) := leading (count + 1) n
    pointed full 1 shown ++ Decimal.exponentText power
  | .general =>
    let (shown, power) := leading (max 1 count) n
    let whole := if power < max 1 count then power + 1 else 1
    pointed full whole (if full then shown else stripAfter whole shown) ++
      if power < max 1 count then [] else Decimal.exponentText power

end NumberForm

end Breakpoint
