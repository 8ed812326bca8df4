import Breakpoint.Extent
import Breakpoint.Fault
import Breakpoint.Value

/-!
# Values as numbers

Which values can stand where an integer, a number or a pair of values is wanted, and the fault
of those that cannot.
-/

namespace Breakpoint.Value

/-- The integer of a value: truth counts one, a number is cut toward zero, and text is read. -/
def toInt : Value → Except Fault Int
  | .bool value => .ok (if value then 1 else 0)
  | .int value => .ok value
  | .float value =>
    match Decimal.partsOf value with
    | .nan => .error .unreadable
    | .infinite _ => .error .outOfRange
    | .finite negative significand exponent =>
      .ok (Decimal.truncate negative significand exponent)
  | .text value =>
    match Decimal.int? value with
    | some number => .ok number
    | none => .error .unreadable
  | .null | .list _ | .dict _ => .error .wrongKind

/-- The extent that a text writes. -/
def readExtent (text : Text) : Except Fault Extent :=
  match Extent.read? text with
  | some extent => .ok extent
  | none => .error .unreadable

/-- The extent of a value: truth counts one, and text is read. -/
def toExtent : Value → Except Fault Extent
  | .bool value => .ok (.ofFloat (if value then 1 else 0))
  | .int value =>
    let number := Float.ofInt value
    if number.isInf then .error .outOfRange else .ok number
  | .float value => .ok value
  | .text value => readExtent value
  | .null | .list _ | .dict _ => .error .wrongKind

/-- The two members of a value that has exactly two: the items of a list, the names of a map,
or the code points of a text. -/
def toPair (value : Value) : Except Fault (Value × Value) :=
  let two : List Value → Except Fault (Value × Value)
    | [first, second] => .ok (first, second)
    | _ => .error .unreadable
  match value with
  | .list items => two items
  | .dict entries => two (entries.map fun entry => .text entry.1)
  | .text points => two (points.map fun c => .text [c])
  | .null | .bool _ | .int _ | .float _ => .error .wrongKind

end Breakpoint.Value
