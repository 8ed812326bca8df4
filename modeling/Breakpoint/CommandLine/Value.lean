import Breakpoint.Extent
import Breakpoint.Text.Lower
import Breakpoint.Text.Quoted

/-!
# Values on the command line

The sizes and overrides that arguments write.
-/

namespace Breakpoint.CommandLine

/-- Why the value of an argument is refused. -/
inductive ValueFault where
  | notSize (value : Text)
  | invalidSize (value : Text)
  | negativeSize (value : Text)
  | notOverride (value : Text)
  deriving DecidableEq, Repr

/-- The words for a refused value. -/
def ValueFault.text : ValueFault → Text
  | .notSize value => "size must look like WIDTHxHEIGHT, got " ++ Text.quoted value
  | .invalidSize value => "invalid size " ++ Text.quoted value
  | .negativeSize value => "size must not be negative, got " ++ Text.quoted value
  | .notOverride value => "override must look like FEATURE=VALUE, got " ++ Text.quoted value

/-- A text before and after the first of a character, if it has one. -/
def cutAt (mark : Char) (text : Text) : Option (Text × Text) :=
  match text.dropWhile (· != .char mark) with
  | [] => none
  | _ :: rest => some (text.takeWhile (· != .char mark), rest)

/-- A width and a height with an x between them. Spaces do not count, and only a number below
zero is refused. -/
def parseSize (value : Text) : Except ValueFault (Extent × Extent) :=
  match cutAt 'x' ((Text.lower value).filter (· != .char ' ')) with
  | none => .error (.notSize value)
  | some (width, height) =>
    match Extent.read? width, Extent.read? height with
    | some width, some height =>
      if width.value < 0 || height.value < 0 then .error (.negativeSize value)
      else .ok (width, height)
    | _, _ => .error (.invalidSize value)

/-- A feature and its value with an equals sign between them. -/
def parseOverride (value : Text) : Except ValueFault (Text × Text) :=
  match cutAt '=' value with
  | none => .error (.notOverride value)
  | some (name, text) =>
    if (Text.trim name).isEmpty then .error (.notOverride value)
    else .ok (Text.lower (Text.trim name), Text.trim text)

end Breakpoint.CommandLine
