import Breakpoint.Decimal.Reading
import Breakpoint.Log
import Breakpoint.Log.Entry
import Breakpoint.Log.Number
import Breakpoint.Text.Word

/-!
# Formats of log lines

A format is text with fields, each a percent sign and a name in parentheses, then flags, a
width, a precision and a letter. Two percent signs stand for one. The letters for text show a
field as it is, between quotes, or between quotes in ASCII, one letter shows a field of a single
code point, and the others show a number. A field without a name shows the whole entry, but only
the first field of a format may lack its name.

A format must hold something that looks like a named field. Whether its fields can be filled in
is another question: if one of them is unknown or wants a number that is none, no line comes of
the format.
-/

namespace Breakpoint

/-- How a field shows its value. -/
inductive FieldForm where
  | plain
  | quoted
  | quotedPlain
  /-- The value is one code point, or the number of one. -/
  | single
  | number (form : NumberForm) (capital : Bool)
  deriving DecidableEq, Repr

/-- The form of a letter. -/
def FieldForm.ofLetter? : CodePoint → Option FieldForm
  | .char 's' => some .plain
  | .char 'r' => some .quoted
  | .char 'a' => some .quotedPlain
  | .char 'c' => some .single
  | .char 'd' | .char 'i' | .char 'u' => some (.number .decimal false)
  | .char 'o' => some (.number .octal false)
  | .char 'x' => some (.number .hexadecimal false)
  | .char 'X' => some (.number .hexadecimal true)
  | .char 'f' => some (.number .places false)
  | .char 'F' => some (.number .places true)
  | .char 'e' => some (.number .exponent false)
  | .char 'E' => some (.number .exponent true)
  | .char 'g' => some (.number .general false)
  | .char 'G' => some (.number .general true)
  | _ => none

/-- What a format says of one field. -/
structure FieldSyntax where
  name : Option Text
  flags : Text
  width : Text
  precision : Option Text
  letter : CodePoint
  deriving DecidableEq, Repr

/-- A field with its layout. -/
structure FieldLayout where
  name : Option Text
  form : FieldForm := .plain
  flags : Text := []
  width : Nat := 0
  precision : Option Nat := none
  deriving DecidableEq, Repr

/-- A piece of a format. -/
inductive LogPiece where
  | literal (c : CodePoint)
  | field (layout : FieldLayout)
  deriving DecidableEq, Repr

/-- A format of log lines. -/
inductive LogFormat where
  | pieces (pieces : List LogPiece)
  /-- A format that cannot be filled in. -/
  | unfillable
  deriving DecidableEq, Repr

namespace FieldSyntax

/-- Whether a code point is a flag. -/
def isFlag : CodePoint → Bool
  | .char '#' | .char '0' | .char '+' | .char ' ' | .char '-' => true
  | _ => false

/-- The name up to the parenthesis that closes it, inside `depth` further ones, and the text
after it. -/
def takeName? (depth : Nat) : Text → Option (Text × Text)
  | [] => none
  | .char ')' :: rest =>
    match depth with
    | 0 => some ([], rest)
    | depth + 1 => (takeName? depth rest).map fun (name, rest) => (.char ')' :: name, rest)
  | .char '(' :: rest =>
    (takeName? (depth + 1) rest).map fun (name, rest) => (.char '(' :: name, rest)
  | c :: rest => (takeName? depth rest).map fun (name, rest) => (c :: name, rest)

/-- The precision at the start of a text, and what follows it. A point without digits counts. -/
def takePrecision : Text → Option Text × Text
  | .char '.' :: rest =>
    let (digits, rest) := Decimal.spanDigits rest
    (some digits, rest)
  | text => (none, text)

/-- The text without the one letter for the size of a number that may stand at its start, which
means nothing. -/
def dropSizeLetter : Text → Text
  | .char 'h' :: rest | .char 'l' :: rest | .char 'L' :: rest => rest
  | text => text

/-- The name in parentheses at the start of a text, if there is one, and what follows it. -/
def takeNameOrNone? : Text → Option (Option Text × Text)
  | .char '(' :: rest => (takeName? 0 rest).map fun (name, rest) => (some name, rest)
  | text => some (none, text)

/-- The field at the start of a text that follows its percent sign, and what follows it. -/
def read? (text : Text) : Option (FieldSyntax × Text) := do
  let (name, rest) ← takeNameOrNone? text
  let flags := rest.takeWhile isFlag
  let (width, rest) := Decimal.spanDigits (rest.drop flags.length)
  let (precision, rest) := takePrecision rest
  match dropSizeLetter rest with
  | letter :: rest => some (⟨name, flags, width, precision, letter⟩, rest)
  | [] => none

/-! ## What looks like a field -/

/-- The text after a width or a precision, of digits of any script or a star. -/
def skipCount : Text → Text
  | .char '*' :: rest => rest
  | text => text.dropWhile fun c => (Text.digitValue? c).isSome

/-- The text after a point and the precision that must follow it. -/
def skipPrecision (text : Text) : Text :=
  match text with
  | .char '.' :: rest =>
    let after := skipCount rest
    if after.length < rest.length then after else text
  | _ => text

/-- The letters of fields. -/
def letters : List Char := "diouxefgcrsa%".toList

/-- Whether a text that follows a percent sign looks like a named field: a word between
parentheses, and at the end a letter in either case, in the wide sense. -/
def isAt : Text → Bool
  | .char '(' :: rest =>
    let name := rest.takeWhile Text.isWord
    match rest.drop name.length with
    | .char ')' :: rest =>
      match skipPrecision (skipCount (rest.dropWhile isFlag)) with
      | letter :: _ => !name.isEmpty && letters.any fun known => Text.isWideSpelling known letter
      | [] => false
    | _ => false
  | _ => false

/-- Whether something that looks like a named field stands anywhere in a text. -/
def occursIn : Text → Bool
  | [] => false
  | c :: rest => (c == .char '%' && isAt rest) || occursIn rest

end FieldSyntax

namespace FieldLayout

/-- No field is wider than this, and no number has more digits. -/
def widthLimit : Nat := Nat.pow 2 24

/-- No text is cut to a greater precision than this. -/
def precisionLimit : Nat := Nat.pow 2 31 - 1

/-- The layout that a format says. -/
def ofSyntax? (written : FieldSyntax) : Option FieldLayout := do
  let form ← FieldForm.ofLetter? written.letter
  let width := Decimal.digitsValue written.width
  let precision := written.precision.map Decimal.digitsValue
  let limit :=
    match form with
    | .number _ _ => widthLimit
    | _ => precisionLimit
  if widthLimit < width || precision.any (limit < ·) then none
  else some { name := written.name, form, flags := written.flags, width, precision }

/-- Whether a layout has a flag. -/
def has (layout : FieldLayout) (flag : Char) : Bool := layout.flags.contains (.char flag)

/-- A text cut to the precision of a field. -/
def cut (layout : FieldLayout) (text : Text) : Text :=
  match layout.precision with
  | some count => text.take count
  | none => text

/-- The sign of a number, which is not below zero. -/
def sign (layout : FieldLayout) : List Char :=
  if layout.has '+' then ['+'] else if layout.has ' ' then [' '] else []

/-- What a field shows of its value: a sign and the mark of a base, if it shows a number, and
the rest. A single code point is not cut. -/
def shown? (layout : FieldLayout) (value : FieldValue) : Option (Text × Text) :=
  match layout.form with
  | .plain => some ([], layout.cut value.text)
  | .quoted => some ([], layout.cut value.inner)
  | .quotedPlain => some ([], layout.cut (Text.plain value.inner))
  | .single =>
    match value.number with
    | some n => if n < 0x110000 then some ([], [.ofNat n]) else none
    | none => if value.text.length = 1 then some ([], value.text) else none
  | .number form capital => do
    let n ← value.number
    let full := layout.has '#'
    let write (text : List Char) : Text :=
      (if capital then text.map Char.toUpper else text).map .char
    return (write (layout.sign ++ if full then form.mark else []),
      write (form.digits full layout.precision n))

/-- Whether a field is filled up with zeros. -/
def isZeroFilled (layout : FieldLayout) : Bool :=
  match layout.form with
  | .number _ _ => layout.has '0'
  | _ => false

/-- A text filled up to the width of a field. Zeros stand after what comes first of a number. -/
def fill (layout : FieldLayout) (first rest : Text) : Text :=
  let missing (c : Char) : Text :=
    List.replicate (layout.width - (first ++ rest).length) (CodePoint.char c)
  if layout.has '-' then first ++ rest ++ missing ' '
  else if layout.isZeroFilled then first ++ missing '0' ++ rest
  else missing ' ' ++ first ++ rest

/-- A field is as wide as it is to be, or as what it shows. -/
theorem length_fill (layout : FieldLayout) (first rest : Text) :
    (layout.fill first rest).length = max layout.width (first ++ rest).length := by
  unfold fill
  split
  · simp only [List.length_append, List.length_replicate]
    omega
  · split
    · simp only [List.length_append, List.length_replicate]
      omega
    · simp only [List.length_append, List.length_replicate]
      omega

end FieldLayout

/-- The layout of a piece that is a field. -/
def LogPiece.layout? : LogPiece → Option FieldLayout
  | .literal _ => none
  | .field layout => some layout

/-- What a piece shows of an entry, if it can be filled in. -/
def LogPiece.text? (entry : LogEntry) : LogPiece → Option Text
  | .literal c => some [c]
  | .field layout => do
    let (first, rest) ← layout.shown? (← entry.value? layout.name)
    return layout.fill first rest

namespace LogFormat

/-- The pieces of a format; `fuel` is at least its length. -/
def piecesOf : (fuel : Nat) → Text → Option (List LogPiece)
  | _, [] => some []
  | 0, _ => none
  | fuel + 1, .char '%' :: .char '%' :: rest =>
    (piecesOf fuel rest).map (.literal (.char '%') :: ·)
  | fuel + 1, .char '%' :: rest => do
    let (written, rest) ← FieldSyntax.read? rest
    return .field (← FieldLayout.ofSyntax? written) :: (← piecesOf fuel rest)
  | fuel + 1, c :: rest => (piecesOf fuel rest).map (.literal c :: ·)

/-- Whether every field after the first has a name. -/
def namesFollow (pieces : List LogPiece) : Bool :=
  ((pieces.filterMap (·.layout?)).drop 1).all fun layout => layout.name.isSome

/-- The format of a log that is given none: the message alone. -/
def messageOnly : LogFormat := .pieces [.field { name := some "message" }]

/-- The format that a text writes; an empty one shows the message alone. -/
def parse (format : Text) : Except Fault LogFormat :=
  if format.isEmpty then .ok messageOnly
  else if !FieldSyntax.occursIn format then .error .unreadable
  else
    match piecesOf format.length format with
    | some list => .ok (if namesFollow list then .pieces list else .unfillable)
    | none => .ok .unfillable

/-- The line of an entry, without its line feed. -/
def line? (format : LogFormat) (entry : LogEntry) : Option Text :=
  match format with
  | .unfillable => none
  | .pieces list => (list.mapM (LogPiece.text? entry)).map List.flatten

end LogFormat

end Breakpoint
