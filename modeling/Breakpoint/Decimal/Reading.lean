import Breakpoint.Decimal.Digits
import Breakpoint.Text.Blank
import Breakpoint.Text.Digit
import Breakpoint.Text.Letter

/-!
# Reading decimals

A run of ASCII digits, the double nearest to a decimal, and the numbers that free text may
hold: digits of any script with single underscores between them, a point, an exponent, a sign,
and the words for infinity and for no number.
-/

namespace Breakpoint.Decimal

/-- An ASCII digit. -/
def isAsciiDigit (c : CodePoint) : Bool := 0x30 ≤ c.val && c.val ≤ 0x39

/-- The digits at the start of a text, and what follows them. -/
def spanDigits (text : Text) : Text × Text := text.span isAsciiDigit

/-- The number that a run of ASCII digits writes. -/
def digitsValue (digits : Text) : Nat :=
  digits.foldl (fun value c => value * 10 + (c.val - 0x30)) 0

/-- The double nearest to `number * 10 ^ power`. Powers far beyond the range of doubles are
settled by the count of digits alone. -/
def nearest (number : Nat) (power : Int) : Float :=
  if number = 0 then 0
  else
    let reach := power + digitCount number
    if 310 < reach then 1 / 0
    else if reach < -330 then 0
    else Float.ofScientific number (power < 0) power.natAbs

/-- The double with the sign of a number. -/
def withSign (negative : Bool) (x : Float) : Float := if negative then -x else x

/-- The sign at the start of a text. -/
def stripSign : Text → Bool × Text
  | .char '-' :: rest => (true, rest)
  | .char '+' :: rest => (false, rest)
  | text => (false, text)

/-- The exponent at the end of a decimal: nothing, or the letter, a sign and digits. -/
def exponent? : Text → Option Int
  | [] => some 0
  | c :: rest =>
    if Text.isAsciiSpelling 'e' c then
      let (negative, digits) := stripSign rest
      if !digits.isEmpty && digits.all isAsciiDigit then
        some (if negative then -(digitsValue digits : Int) else digitsValue digits)
      else none
    else none

/-- An unsigned decimal: digits with an optional point, at least one digit, and an optional
exponent. -/
def unsigned? (text : Text) : Option Float :=
  let (whole, rest) := spanDigits text
  let (fraction, rest) :=
    match rest with
    | .char '.' :: rest => spanDigits rest
    | _ => ([], rest)
  if whole.isEmpty && fraction.isEmpty then none
  else (exponent? rest).map fun power =>
    nearest (digitsValue (whole ++ fraction)) (power - fraction.length)

/-- The words for infinity and for no number, in either case. -/
def word? (text : Text) : Option Float :=
  let spells (word : String) := Text.stripSpelling Text.isAsciiSpelling word.toList text == some []
  if spells "inf" || spells "infinity" then some (1 / 0)
  else if spells "nan" then some (0 / 0)
  else none

/-- Free text with its digits in ASCII and its blanks as spaces. The ASCII separators are no
blanks here. -/
def plain (c : CodePoint) : CodePoint :=
  if c.val < 0x7F then c
  else if Text.isBlank c then .char ' '
  else
    match Text.digitValue? c with
    | some digit => .char (Nat.digitChar digit)
    | none => c

/-- The text without its underscores, each of which must stand between two digits. -/
def joinDigits? : Text → Option Text
  | [] => some []
  | .char '_' :: _ => none
  | c :: .char '_' :: d :: rest =>
    if isAsciiDigit c && isAsciiDigit d then (joinDigits? (d :: rest)).map (c :: ·) else none
  | c :: rest => (joinDigits? rest).map (c :: ·)

/-- Free text prepared for reading: plain, without blanks around it and underscores in it. -/
def prepare? (text : Text) : Option Text :=
  let shown := (text.map plain).dropWhile Text.isAsciiBlank
  joinDigits? (Text.dropTrailing Text.isAsciiBlank shown)

/-- The sign and the double that free text writes. The word for no number has a sign like any
other, which the double does not show. -/
def signed? (text : Text) : Option (Bool × Float) := do
  let (negative, rest) := stripSign (← prepare? text)
  let magnitude ← (word? rest).orElse fun _ => unsigned? rest
  return (negative, withSign negative magnitude)

/-- The double that free text writes. -/
def float? (text : Text) : Option Float := (signed? text).map (·.2)

/-- Integers are read up to this many digits. -/
def digitLimit : Nat := 4300

/-- The integer that free text writes. -/
def int? (text : Text) : Option Int := do
  let (negative, digits) := stripSign (← prepare? text)
  if digits.isEmpty || !digits.all isAsciiDigit || digitLimit < digits.length then none
  else return if negative then -(digitsValue digits : Int) else digitsValue digits

end Breakpoint.Decimal
