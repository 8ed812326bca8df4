import Breakpoint.Decimal.Reading
import Breakpoint.Dict
import Breakpoint.Value

/-!
# Documents

The reader of the text form of values, from left to right. A document is one value with blanks
around it; the words for infinity and for no number are allowed where a number is. Of several
values of one name in a map the last counts, at the place of the first.

An integer of more digits than the limit is refused, and so is a list or a map inside more others
than the stack has room for. Either is found when the reader comes to it, and so before any mistake
further on.
-/

namespace Breakpoint.Document

/-- Why a text of the right form is refused. -/
inductive Refusal where
  | tooManyDigits
  | tooDeep
  deriving DecidableEq, Repr

/-- The fault of a refusal. -/
def Refusal.fault : Refusal → Fault
  | .tooManyDigits => .unreadable
  | .tooDeep => .tooDeep

/-- Why a document cannot be read. -/
inductive ReadFault where
  | malformed
  | refused (refusal : Refusal)
  deriving DecidableEq, Repr

/-- The text after the blanks of the document form. -/
def skipBlanks (text : Text) : Text :=
  text.dropWhile fun c => c.val == 0x20 || c.val == 0x09 || c.val == 0x0A || c.val == 0x0D

/-- The value of a hexadecimal digit. -/
def hexValue? (c : CodePoint) : Option Nat :=
  if 0x30 ≤ c.val ∧ c.val ≤ 0x39 then some (c.val - 0x30)
  else if 0x61 ≤ c.val ∧ c.val ≤ 0x66 then some (c.val - 0x61 + 10)
  else if 0x41 ≤ c.val ∧ c.val ≤ 0x46 then some (c.val - 0x41 + 10)
  else none

/-- Four hexadecimal digits at the start of a text. -/
def hexUnit? : Text → Option (Nat × Text)
  | a :: b :: c :: d :: rest => do
    let a ← hexValue? a
    let b ← hexValue? b
    let c ← hexValue? c
    let d ← hexValue? d
    return (((a * 16 + b) * 16 + c) * 16 + d, rest)
  | _ => none

/-- The code point of an escape by code units of sixteen bits, at the text after its first `u`.
The two halves of a pair that follow each other are one character. -/
def unicodeEscape? (text : Text) : Option (CodePoint × Text) := do
  let (unit, rest) ← hexUnit? text
  if 0xD800 ≤ unit ∧ unit < 0xDC00 then
    match rest with
    | .char '\x5c' :: .char 'u' :: more =>
      let (second, after) ← hexUnit? more
      if 0xDC00 ≤ second ∧ second < 0xE000 then
        return (.ofNat (0x10000 + (unit - 0xD800) * 1024 + (second - 0xDC00)), after)
      else return (.ofNat unit, rest)
    | _ => return (.ofNat unit, rest)
  else return (.ofNat unit, rest)

/-- The character of an escape by letter. -/
def letterEscape? : CodePoint → Option CodePoint
  | .char '\x22' => some (.char '\x22')
  | .char '\x5c' => some (.char '\x5c')
  | .char '/' => some (.char '/')
  | .char 'b' => some (.char '\x08')
  | .char 'f' => some (.char '\x0c')
  | .char 'n' => some (.char '\n')
  | .char 'r' => some (.char '\r')
  | .char 't' => some (.char '\t')
  | _ => none

/-- The rest of a quoted text whose opening quote has been read; `fuel` exceeds the length of
the text. -/
def readText (fuel : Nat) (done text : Text) : Except ReadFault (Text × Text) :=
  match fuel with
  | 0 => .error .malformed
  | fuel + 1 =>
    match text with
    | [] => .error .malformed
    | .char '\x22' :: rest => .ok (done.reverse, rest)
    | .char '\x5c' :: .char 'u' :: rest =>
      match unicodeEscape? rest with
      | some (c, rest) => readText fuel (c :: done) rest
      | none => .error .malformed
    | .char '\x5c' :: letter :: rest =>
      match letterEscape? letter with
      | some c => readText fuel (c :: done) rest
      | none => .error .malformed
    | c :: rest =>
      if c.val < 0x20 || c == .char '\x5c' then .error .malformed
      else readText fuel (c :: done) rest

/-- The text after a word that must stand at its start. -/
def stripWord : Text → Text → Option Text
  | [], text => some text
  | _ :: _, [] => none
  | w :: word, c :: text => if w = c then stripWord word text else none

/-- The fraction of a number: its digits, or none when no digit follows the point. -/
def spanFraction : Text → Text × Text
  | .char '.' :: rest =>
    match Decimal.spanDigits rest with
    | ([], _) => ([], .char '.' :: rest)
    | found => found
  | text => ([], text)

/-- The exponent of a number, or none when no digit follows the letter and its sign. -/
def spanExponent (text : Text) : Option Int × Text :=
  match text with
  | c :: rest =>
    if c == .char 'e' || c == .char 'E' then
      let (negative, signed) := Decimal.stripSign rest
      match Decimal.spanDigits signed with
      | ([], _) => (none, text)
      | (digits, after) =>
        let size : Int := Decimal.digitsValue digits
        (some (if negative then -size else size), after)
    else (none, text)
  | [] => (none, [])

/-- A number without its sign. A leading zero stands alone. -/
def readMagnitude (negative : Bool) (text : Text) : Except ReadFault (Value × Text) :=
  let (whole, rest) : Text × Text :=
    match text with
    | .char '0' :: rest => ([.char '0'], rest)
    | _ => Decimal.spanDigits text
  if whole.isEmpty then .error .malformed
  else
    let (fraction, rest) := spanFraction rest
    let (power, rest) := spanExponent rest
    if fraction.isEmpty && power.isNone then
      if Decimal.digitLimit < whole.length then .error (.refused .tooManyDigits)
      else
        let size : Int := Decimal.digitsValue whole
        .ok (.int (if negative then -size else size), rest)
    else
      let size := Decimal.nearest (Decimal.digitsValue (whole ++ fraction))
        (power.getD 0 - fraction.length)
      .ok (.float (Decimal.withSign negative size), rest)

/-- A word or a number. -/
def readAtom (text : Text) : Except ReadFault (Value × Text) :=
  let words : List (Text × Value) :=
    [("null", .null), ("true", .bool true), ("false", .bool false), ("NaN", .float (0 / 0)),
     ("Infinity", .float (1 / 0)), ("-Infinity", .float (-(1 / 0)))]
  match words.findSome? fun (word, value) => (stripWord word text).map (value, ·) with
  | some found => .ok found
  | none =>
    match text with
    | .char '-' :: rest => readMagnitude true rest
    | _ => readMagnitude false text

mutual

/-- A value at the start of a text, on a stack with room for so many lists and maps within one
another; `fuel` exceeds the length of the text. -/
def readValue (room fuel : Nat) (text : Text) : Except ReadFault (Value × Text) :=
  match fuel with
  | 0 => .error .malformed
  | fuel + 1 =>
    match text with
    | .char '\x22' :: rest => do
      let (value, rest) ← readText (rest.length + 1) [] rest
      return (.text value, rest)
    | .char '[' :: rest =>
      match room with
      | 0 => .error (.refused .tooDeep)
      | room + 1 =>
        match skipBlanks rest with
        | .char ']' :: rest => .ok (.list [], rest)
        | rest => do
          let (items, rest) ← readItems room fuel rest
          return (.list items, rest)
    | .char '\x7b' :: rest =>
      match room with
      | 0 => .error (.refused .tooDeep)
      | room + 1 =>
        match skipBlanks rest with
        | .char '\x7d' :: rest => .ok (.dict [], rest)
        | rest => do
          let (entries, rest) ← readEntries room fuel rest
          return (.dict (Dict.ofList entries).entries, rest)
    | _ => readAtom text

/-- The items of a list up to its closing bracket. -/
def readItems (room fuel : Nat) (text : Text) : Except ReadFault (List Value × Text) :=
  match fuel with
  | 0 => .error .malformed
  | fuel + 1 => do
    let (item, rest) ← readValue room fuel text
    match skipBlanks rest with
    | .char ']' :: rest => return ([item], rest)
    | .char ',' :: rest =>
      let (items, rest) ← readItems room fuel (skipBlanks rest)
      return (item :: items, rest)
    | _ => .error .malformed

/-- The entries of a map up to its closing brace. -/
def readEntries (room fuel : Nat) (text : Text) :
    Except ReadFault (List (Text × Value) × Text) :=
  match fuel with
  | 0 => .error .malformed
  | fuel + 1 =>
    match text with
    | .char '\x22' :: rest => do
      let (name, rest) ← readText (rest.length + 1) [] rest
      match skipBlanks rest with
      | .char ':' :: rest =>
        let (value, rest) ← readValue room fuel (skipBlanks rest)
        match skipBlanks rest with
        | .char '\x7d' :: rest => return ([(name, value)], rest)
        | .char ',' :: rest =>
          let (entries, rest) ← readEntries room fuel (skipBlanks rest)
          return ((name, value) :: entries, rest)
        | _ => .error .malformed
      | _ => .error .malformed
    | _ => .error .malformed

end

/-- The value of a document, on a stack with room for so many lists and maps within one another. -/
def read (room : Nat) (document : Text) : Except ReadFault Value := do
  let text := skipBlanks document
  let (value, rest) ← readValue room (2 * text.length + 2) text
  if (skipBlanks rest).isEmpty then return value else .error .malformed

end Breakpoint.Document
