import Breakpoint.Decimal.Reading
import Breakpoint.Query
import Breakpoint.Query.Keyword
import Breakpoint.Query.Ratio
import Breakpoint.Text.Lower

/-!
# The text of a feature

What may stand between the parentheses of a query: a length of a dimension, an aspect ratio,
or a feature with one of its keywords. Lengths and ratios are ASCII text in either case. The
features with keywords are matched in the wide sense of letters, and their value is the lower
case of what was written.
-/

namespace Breakpoint.Query

open Breakpoint.Text Breakpoint.Decimal

/-- The text after a colon with blanks around it. -/
def afterColon? (blank : CodePoint → Bool) (text : Text) : Option Text :=
  match text.dropWhile blank with
  | .char ':' :: rest => some (rest.dropWhile blank)
  | _ => none

/-- The comparison that a feature's name starts with, and the text after it. -/
def comparisonOf (text : Text) : Comparison × Text :=
  match stripSpelling isAsciiSpelling "min-".toList text with
  | some rest => (.atLeast, rest)
  | none =>
    match stripSpelling isAsciiSpelling "max-".toList text with
    | some rest => (.atMost, rest)
    | none => (.exactly, text)

/-- The first of several words that the text starts with, and the text after it. -/
def firstWord? (spells : Char → CodePoint → Bool) (words : List String) (text : Text) :
    Option (String × Text) :=
  words.findSome? fun word => (stripSpelling spells word.toList text).map (word, ·)

/-- A signed length without exponent: with a point there is a digit after it, without one
before. Then the text after it. -/
def length? (text : Text) : Option (Float × Text) :=
  let (negative, rest) := stripSign text
  let (whole, rest) := spanDigits rest
  let (fraction, after) :=
    match rest with
    | .char '.' :: rest => spanDigits rest
    | _ => (whole, rest)
  if fraction.isEmpty then none
  else
    let digits := if rest.head? = some (.char '.') then whole ++ fraction else whole
    let power := if rest.head? = some (.char '.') then fraction.length else 0
    some (withSign negative (nearest (digitsValue digits) (-power)), after)

/-- Whether a text is nothing or a unit of length. -/
def isUnit (text : Text) : Bool :=
  text.isEmpty || ["px", "em", "rem"].any fun unit =>
    stripSpelling isAsciiSpelling unit.toList text == some []

/-- The length of a dimension. Units are not told apart. -/
def dimension? (text : Text) : Option Feature := do
  let (comparison, rest) := comparisonOf text
  let (name, rest) ← firstWord? isAsciiSpelling ["width", "height"] rest
  let (value, rest) ← length? (← afterColon? isAsciiBlank rest)
  if isUnit rest then some ⟨name, comparison, .number value⟩ else none

/-- An aspect ratio of two whole numbers. -/
def aspectRatio? (text : Text) : Option Feature := do
  let (comparison, rest) := comparisonOf text
  let (name, rest) ← firstWord? isAsciiSpelling ["aspect-ratio"] rest
  let (width, rest) := spanDigits (← afterColon? isAsciiBlank rest)
  match rest.dropWhile isAsciiBlank with
  | .char '/' :: rest =>
    let (height, rest) := spanDigits (rest.dropWhile isAsciiBlank)
    if width.isEmpty || height.isEmpty || !rest.isEmpty then none
    else
      let value := ratio (nearest (digitsValue width) 0) (nearest (digitsValue height) 0)
      some ⟨name, comparison, .number value⟩
  | _ => none

/-- One feature with one of its keywords. -/
def keyword? (feature : String × List String) (text : Text) : Option Feature := do
  let value ← afterColon? isBlank (← stripSpelling isWideSpelling feature.1.toList text)
  if feature.2.any fun word => stripSpelling isWideSpelling word.toList value == some [] then
    some ⟨feature.1, .exactly, .keyword (lower value)⟩
  else none

/-- The feature that a text without blanks around it writes. -/
def feature? (text : Text) : Option Feature :=
  (dimension? text).or <| (aspectRatio? text).or <|
    keywordFeatures.findSome? fun feature => keyword? feature text

end Breakpoint.Query
