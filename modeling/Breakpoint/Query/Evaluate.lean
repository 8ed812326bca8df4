import Breakpoint.Preferences
import Breakpoint.Query.Keyword
import Breakpoint.Query.Ratio
import Breakpoint.Query
import Breakpoint.Value.Number

/-!
# Evaluating media queries

Whether a query holds for a viewport of some size. `evaluate` flattens the chains that joined
lists make, so its depth is that of the written query; `holds` follows the tree. Only a tree
built by hand can fail to have an answer, when it compares a number with text that is none.
-/

namespace Breakpoint

/-- What a query is evaluated against. An override may be any value, of which null is none. -/
structure Surroundings where
  width : Extent
  height : Extent
  overrides : Dict Value := {}
  host : Preferences := {}

/-- Two aspect ratios closer than this are the same. -/
def aspectRatioTolerance : Float := 0.01

/-- The number that an operand stands for. -/
def Operand.toFloat : Operand → Except Fault Float
  | .number value => .ok value
  | .keyword text => (Value.readExtent text).map (·.value)

/-- Whether a value is what a feature is compared with: text is a keyword, letter by letter, and
a number is the same number; truth counts one. -/
def Operand.isValue (operand : Operand) (value : Value) : Bool :=
  match operand, value with
  | .keyword text, .text value => text == value
  | .number expected, .bool value => expected == if value then 1 else 0
  | .number expected, .int value => Decimal.isInt expected value
  | .number expected, .float value => expected == value
  | _, _ => false

/-- Whether a number passes a comparison. -/
def Comparison.admits (comparison : Comparison) (actual expected : Float) : Bool :=
  match comparison with
  | .atLeast => actual ≥ expected
  | .atMost => actual ≤ expected
  | .exactly | .unknown => actual == expected

namespace Query

/-- Whether a feature that the size does not tell holds for a host without overrides. Hover and
pointer are those of a desktop. -/
def holdsForHost (test : Feature) (host : Preferences) : Bool :=
  if test.name = "prefers-color-scheme" then test.operand = .keyword host.colorScheme
  else if test.name = "prefers-reduced-motion" then
    if test.operand = .keyword "reduce" then host.reducedMotion else !host.reducedMotion
  else if test.name = "prefers-contrast" then test.operand = .keyword host.contrast
  else if test.name = "hover" then test.operand = .keyword "hover"
  else if test.name = "pointer" then test.operand = .keyword "fine"
  else false

/-- Whether a feature that the size does not tell holds. An override answers first, then the
host. -/
def holdsStatic (test : Feature) (overrides : Dict Value) (host : Preferences) : Bool :=
  match overrides.get? test.name with
  | none | some .null => holdsForHost test host
  | some value => test.operand.isValue value

/-- Whether a feature holds. -/
def holdsFeature (test : Feature) (surroundings : Surroundings) : Except Fault Bool :=
  if test.name = "width" then
    test.operand.toFloat.map (test.comparison.admits surroundings.width.value)
  else if test.name = "height" then
    test.operand.toFloat.map (test.comparison.admits surroundings.height.value)
  else if test.name = "orientation" then
    let portrait : Bool := surroundings.height.value ≥ surroundings.width.value
    .ok (if test.operand = .keyword "portrait" then portrait else !portrait)
  else if test.name = "aspect-ratio" then
    let actual := surroundings.width.ratio surroundings.height
    test.operand.toFloat.map fun expected =>
      if test.comparison = .exactly then (actual - expected).abs < aspectRatioTolerance
      else test.comparison.admits actual expected
  else if isOverridable test.name then
    .ok (holdsStatic test surroundings.overrides surroundings.host)
  else .ok false

/-- Whether a query holds, following its tree. Of two joined queries the second is left out
when the first settles the answer. -/
def holds (surroundings : Surroundings) : Query → Except Fault Bool
  | .absent => .ok false
  | .feature test => holdsFeature test surroundings
  | .neg operand => (holds surroundings operand).map not
  | .conj left right => do
    if ← holds surroundings left then holds surroundings right else return false
  | .disj left right => do
    if ← holds surroundings left then return true else holds surroundings right

/-- Whether a query stands under an odd number of negations, and the query under them. -/
def stripNegations : Query → Bool × Query
  | .neg operand =>
    let (odd, rest) := stripNegations operand
    (!odd, rest)
  | query => (false, query)

/-- The members of a chain of conjunctions to the left, before some others. -/
def conjuncts : Query → List Query → List Query
  | .conj left right, others => conjuncts left (right :: others)
  | query, others => query :: others

/-- The members of a chain of disjunctions to the left, before some others. -/
def disjuncts : Query → List Query → List Query
  | .disj left right, others => disjuncts left (right :: others)
  | query, others => query :: others

/-- Whether every member passes, asked up to the first that does not. -/
def allPass {α : Type} (passes : α → Except Fault Bool) : List α → Except Fault Bool
  | [] => .ok true
  | first :: rest => do if ← passes first then allPass passes rest else return false

/-- Whether some member passes, asked up to the first that does. -/
def somePasses {α : Type} (passes : α → Except Fault Bool) : List α → Except Fault Bool
  | [] => .ok false
  | first :: rest => do if ← passes first then return true else somePasses passes rest

/-- Whether a query of at most `bound` nodes holds, chain by chain. -/
def evaluateWithin (surroundings : Surroundings) : Nat → Query → Except Fault Bool
  | 0, _ => .ok false
  | bound + 1, query =>
    let (odd, core) := stripNegations query
    let result :=
      match core with
      | .conj left right =>
        allPass (evaluateWithin surroundings bound) (conjuncts left [right])
      | .disj left right =>
        somePasses (evaluateWithin surroundings bound) (disjuncts left [right])
      | .feature test => holdsFeature test surroundings
      | .absent | .neg _ => .ok false
    result.map (· != odd)

/-- Whether a query holds, chain by chain. -/
def evaluate (surroundings : Surroundings) (query : Query) : Except Fault Bool :=
  evaluateWithin surroundings query.size query

end Query

end Breakpoint
