import Breakpoint.Decimal.Shortest
import Breakpoint.Text

/-!
# Written numbers

A layout says how digits become text: from which power of ten on the exponent is written, and
whether a whole number shows a fraction. Two layouts are in use, the exact one of values and
the short one of sizes with six significant digits.
-/

namespace Breakpoint.Decimal

/-- The choices of a written number. -/
structure Layout where
  /-- Positional digits are used for powers of ten below this one. -/
  positionalBelow : Int
  /-- Positional digits are used down to this power of ten. -/
  positionalFrom : Int
  /-- A positional whole number ends in a point and a zero. -/
  wholeFraction : Bool

/-- Digits without the zeros at their end. -/
def stripZeros (digits : List Char) : List Char := (digits.reverse.dropWhile (· == '0')).reverse

/-- The power of ten with its sign and at least two digits. -/
def exponentText (power : Int) : List Char :=
  let digits := Nat.toDigits 10 power.natAbs
  'e' :: (if power < 0 then '-' else '+') :: (if digits.length < 2 then '0' :: digits else digits)

/-- The text of a positive decimal. -/
def Layout.digits (layout : Layout) (decimal : Digits) : List Char :=
  let digits := stripZeros (Nat.toDigits 10 decimal.number)
  if layout.positionalFrom ≤ decimal.power ∧ decimal.power < layout.positionalBelow then
    match decimal.power with
    | .negSucc n => '0' :: '.' :: List.replicate n '0' ++ digits
    | .ofNat n =>
      let whole := digits.take (n + 1) ++ List.replicate (n + 1 - digits.length) '0'
      match digits.drop (n + 1) with
      | [] => if layout.wholeFraction then whole ++ ['.', '0'] else whole
      | fraction => whole ++ '.' :: fraction
  else
    match digits with
    | [] => exponentText decimal.power
    | [first] => first :: exponentText decimal.power
    | first :: rest => first :: '.' :: rest ++ exponentText decimal.power

/-- The text of a double, its positive digits chosen by `digits`. -/
def Layout.text (layout : Layout) (digits : Nat → Int → Digits) (x : Float) : List Char :=
  let signed (negative : Bool) (text : List Char) := if negative then '-' :: text else text
  match partsOf x with
  | .nan => ['n', 'a', 'n']
  | .infinite negative => signed negative ['i', 'n', 'f']
  | .finite negative 0 _ =>
    signed negative (if layout.wholeFraction then ['0', '.', '0'] else ['0'])
  | .finite negative significand exponent =>
    signed negative (layout.digits (digits significand exponent))

/-- Values show every digit that tells them apart; the exponent is written from the sixteenth
power of ten on. -/
def exactLayout : Layout := ⟨16, -4, true⟩

/-- Sizes show six significant digits, and no fraction when they are whole. -/
def shortLayout : Layout := ⟨6, -4, false⟩

/-- The six leading digits of a positive double. -/
def sixDigits (significand : Nat) (exponent : Int) : Digits :=
  match exponent with
  | .ofNat n => significant 6 (significand * Nat.pow 2 n) 1
  | .negSucc n => significant 6 significand (Nat.pow 2 (n + 1))

end Breakpoint.Decimal

namespace Breakpoint

/-- The exact text of a number. -/
def exactText (x : Float) : Text :=
  (Decimal.exactLayout.text Decimal.shortest x).map .char

/-- The text of a number to six significant digits. -/
def shortText (x : Float) : Text :=
  (Decimal.shortLayout.text Decimal.sixDigits x).map .char

end Breakpoint
