import Breakpoint.Decimal.Layout
import Breakpoint.Decimal.Reading
import Breakpoint.Fault
import Breakpoint.Text.Quoted

/-!
# Values

The values that settings files, override files and hosts hand in, and their text. Text stands
for itself at the top and is quoted inside a list or a map.

Some values have no text: an integer of more digits than the limit, and a list or a map inside more
others than the stack has room for. Values are written from left to right, so the first of these
counts.
-/

namespace Breakpoint

/-- A value of a settings or overrides file, or of a host. -/
inductive Value where
  | null
  | bool (value : Bool)
  | int (value : Int)
  | float (value : Float)
  | text (value : Text)
  | list (items : List Value)
  | dict (entries : List (Text × Value))

namespace Value

/-- The texts with a comma and a space between them. -/
def joinComma (texts : List Text) : Text := List.intercalate ", " texts

mutual

/-- The text of a value inside a list or a map. -/
def inner : Value → Text
  | .null => "None"
  | .bool true => "True"
  | .bool false => "False"
  | .int value => toString value
  | .float value => exactText value
  | .text value => Text.quoted value
  | .list items => "[" ++ joinComma (innerItems items) ++ "]"
  | .dict entries => "\x7b" ++ joinComma (innerEntries entries) ++ "\x7d"

/-- The texts of the items of a list. -/
def innerItems : List Value → List Text
  | [] => []
  | item :: rest => inner item :: innerItems rest

/-- The texts of the entries of a map. -/
def innerEntries : List (Text × Value) → List Text
  | [] => []
  | (name, value) :: rest => (Text.quoted name ++ ": " ++ inner value) :: innerEntries rest

end

/-- The text of a value. -/
def display : Value → Text
  | .text value => value
  | value => inner value

/-- A text stands for itself. -/
@[simp] theorem display_text (value : Text) : (Value.text value).display = value := rfl

mutual

/-- Why a value has no text, on a stack with room for so many lists and maps within one another. -/
def textFault? (room : Nat) : Value → Option Fault
  | .int value =>
    if Decimal.digitLimit < Decimal.digitCount value.natAbs then some .unreadable else none
  | .list items =>
    match room with
    | 0 => some .tooDeep
    | room + 1 => itemsFault? room items
  | .dict entries =>
    match room with
    | 0 => some .tooDeep
    | room + 1 => entriesFault? room entries
  | .null | .bool _ | .float _ | .text _ => none

/-- Why one of the items of a list has no text, the first of these. -/
def itemsFault? (room : Nat) : List Value → Option Fault
  | [] => none
  | item :: rest => (textFault? room item).or (itemsFault? room rest)

/-- Why the value of one of the entries of a map has no text, the first of these. -/
def entriesFault? (room : Nat) : List (Text × Value) → Option Fault
  | [] => none
  | (_, value) :: rest => (textFault? room value).or (entriesFault? room rest)

end

/-- The text of a value, if it has one. -/
def toText (room : Nat) (value : Value) : Except Fault Text :=
  match value.textFault? room with
  | some fault => .error fault
  | none => .ok value.display

/-- A text has a text in any room. -/
@[simp] theorem toText_text (room : Nat) (value : Text) :
    (Value.text value).toText room = .ok value := rfl

end Value

end Breakpoint
