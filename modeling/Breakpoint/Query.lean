import Breakpoint.Text

/-!
# Media queries

A media query is a tree over tests of single features. A feature compares its value with a
number or a keyword. Trees built by hand may use names and comparisons that no query text
gives, and may lack a node.
-/

namespace Breakpoint

/-- What a feature is compared with. -/
inductive Operand where
  | number (value : Float)
  | keyword (text : Text)
  deriving DecidableEq

/-- How a feature is compared. -/
inductive Comparison where
  | atLeast
  | atMost
  | exactly
  /-- A comparison without a rule of its own, taken as equality without tolerance. -/
  | unknown
  deriving DecidableEq, Repr

/-- The test of one feature. -/
structure Feature where
  name : Text
  comparison : Comparison
  operand : Operand
  deriving DecidableEq

/-- A media query. -/
inductive Query where
  /-- A node that is missing from a tree built by hand. -/
  | absent
  | feature (test : Feature)
  | neg (operand : Query)
  | conj (left right : Query)
  | disj (left right : Query)
  deriving DecidableEq

namespace Query

/-- The query under a number of negations. -/
def negated : Nat → Query → Query
  | 0, query => query
  | count + 1, query => negated count (.neg query)

/-- Negations nest from the inside out. -/
theorem negated_succ (count : Nat) (query : Query) :
    negated (count + 1) query = .neg (negated count query) := by
  induction count generalizing query with
  | zero => rfl
  | succ count ih => rw [negated, ih, negated]

/-- The queries joined to the left. -/
def joinLeft (join : Query → Query → Query) : List Query → Query
  | [] => .absent
  | first :: rest => rest.foldl join first

/-- The tests of a query from left to right. -/
def features : Query → List Feature
  | .absent => []
  | .feature test => [test]
  | .neg operand => operand.features
  | .conj left right => left.features ++ right.features
  | .disj left right => left.features ++ right.features

/-- How many nodes a query has. -/
def size : Query → Nat
  | .absent => 1
  | .feature _ => 1
  | .neg operand => operand.size + 1
  | .conj left right => left.size + right.size + 1
  | .disj left right => left.size + right.size + 1

end Query

end Breakpoint
