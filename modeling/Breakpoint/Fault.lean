import Breakpoint.Text

/-!
# Faults

The causes for which a call ends without a result. A host callback may raise a fault with a
text of its own; all other faults are named by their cause.
-/

namespace Breakpoint

/-- What a file operation may refuse. -/
inductive StorageFault where
  | missing
  | isDirectory
  | notDirectory
  | alreadyThere
  | nameTooLong
  | nullCharacter
  /-- A name that no bytes stand for. -/
  | unencodable
  deriving DecidableEq, Repr

/-- Why a call ended without a result. -/
inductive Fault where
  /-- Raised with a text, by a callback of the host or for want of a home directory. -/
  | raised (message : Text)
  /-- Another fault of a callback of the host, by the name that the host gives it. -/
  | foreign (name : Text)
  /-- A value of the right kind that cannot be read. -/
  | unreadable
  /-- A value of the wrong kind. -/
  | wrongKind
  /-- A number outside the range of the result. -/
  | outOfRange
  /-- Bytes that are no text. -/
  | undecodable
  /-- A path that was left blank. -/
  | noPath
  /-- More is nested in a text or a value than the stack has room for. -/
  | tooDeep
  | storage (fault : StorageFault)
  deriving DecidableEq, Repr

/-- How much room the stack of a usual host has: for so many texts or values within one another. -/
def usualRoom : Nat := 1000

/-- The text of a fault in a message. -/
def Fault.text : Fault → Text
  | .raised message => message
  | .foreign name => name
  | .unreadable => "unreadable value"
  | .wrongKind => "value of the wrong kind"
  | .outOfRange => "number out of range"
  | .undecodable => "bytes are not UTF-8"
  | .noPath => "path left blank"
  | .tooDeep => "nested too deep"
  | .storage .missing => "no such file or directory"
  | .storage .isDirectory => "is a directory"
  | .storage .notDirectory => "not a directory"
  | .storage .alreadyThere => "file exists"
  | .storage .nameTooLong => "file name too long"
  | .storage .nullCharacter => "null character in a file name"
  | .storage .unencodable => "file name cannot be encoded"

end Breakpoint
