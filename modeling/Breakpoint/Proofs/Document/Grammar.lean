import Breakpoint.Document

/-!
# The form of documents

What a document looks like, without regard to how it is read: words, numbers, quoted texts, and
lists and maps of values, with blanks between their parts. How many digits an integer has at most and
how many lists and maps stand within one another at most are parameters of the form. A text is a
document if it is one for some such limits.

The reader has limits of its own. It refuses an integer of too many digits and a list or a map too
deep inside others, and it does so when it comes to one, whatever follows. So the texts at which it
stops are described apart: what goes before is of the form of a document within the limits, and what
comes after is not looked at.
-/

namespace Breakpoint.Document

open Decimal

/-- A blank of the document form. -/
def isBlank (c : CodePoint) : Bool :=
  c.val == 0x20 || c.val == 0x09 || c.val == 0x0A || c.val == 0x0D

/-- Blanks, or nothing. -/
def IsBlanks (text : Text) : Prop := ∀ c ∈ text, isBlank c = true

/-! ## Words and numbers -/

/-- The words of the document form. -/
inductive WritesWord : Text → Value → Prop
  | null : WritesWord "null" .null
  | yes : WritesWord "true" (.bool true)
  | no : WritesWord "false" (.bool false)
  | notANumber : WritesWord "NaN" (.float (0 / 0))
  | infinity : WritesWord "Infinity" (.float (1 / 0))
  | minusInfinity : WritesWord "-Infinity" (.float (-(1 / 0)))

/-- At least one digit, and nothing else. -/
def IsDigits (digits : Text) : Prop := digits ≠ [] ∧ ∀ c ∈ digits, isAsciiDigit c = true

/-- The digits of a number before its point: a zero alone, or digits of which a zero is not the
first. -/
def IsWhole (digits : Text) : Prop :=
  digits = [.char '0'] ∨ IsDigits digits ∧ digits.head? ≠ some (.char '0')

/-- A point with digits after it, or nothing, and the digits. -/
inductive WritesFraction : Text → Text → Prop
  | absent : WritesFraction [] []
  | point {digits : Text} (h : IsDigits digits) : WritesFraction (.char '.' :: digits) digits

/-- A sign, or nothing, and whether it is a minus. -/
inductive WritesSign : Text → Bool → Prop
  | absent : WritesSign [] false
  | plus : WritesSign [.char '+'] false
  | minus : WritesSign [.char '-'] true

/-- A number with its sign. -/
def signed (negative : Bool) (size : Nat) : Int := if negative then -size else size

/-- An exponent with its letter, or nothing, and the power of ten. -/
inductive WritesExponent : Text → Option Int → Prop
  | absent : WritesExponent [] none
  | power {letter : CodePoint} {sign digits : Text} {negative : Bool}
      (hletter : letter = .char 'e' ∨ letter = .char 'E') (hsign : WritesSign sign negative)
      (hdigits : IsDigits digits) :
      WritesExponent (letter :: (sign ++ digits)) (some (signed negative (digitsValue digits)))

/-- A number behind its sign. With a fraction or an exponent it is a double, else an integer of at
most so many digits. -/
inductive WritesMagnitude (most : Nat) (negative : Bool) : Text → Value → Prop
  | int {whole : Text} (hwhole : IsWhole whole) (hmost : whole.length ≤ most) :
      WritesMagnitude most negative whole (.int (signed negative (digitsValue whole)))
  | float {whole fraction digits exponent : Text} {power : Option Int} (hwhole : IsWhole whole)
      (hfraction : WritesFraction fraction digits) (hexponent : WritesExponent exponent power)
      (hpart : fraction ≠ [] ∨ exponent ≠ []) :
      WritesMagnitude most negative (whole ++ (fraction ++ exponent))
        (.float (withSign negative
          (nearest (digitsValue (whole ++ digits)) (power.getD 0 - digits.length))))

/-! ## Quoted texts -/

/-- Four hexadecimal digits write a code unit of sixteen bits. -/
def WritesUnit (digits : Text) (unit : Nat) : Prop := hexUnit? digits = some (unit, [])

/-- The unit is the first half of a surrogate pair. -/
def IsHigh (unit : Nat) : Prop := 0xD800 ≤ unit ∧ unit < 0xDC00

/-- The unit is the second half of a surrogate pair. -/
def IsLow (unit : Nat) : Prop := 0xDC00 ≤ unit ∧ unit < 0xE000

/-- The character of a surrogate pair. -/
def pairOf (high low : Nat) : CodePoint :=
  .ofNat (0x10000 + (high - 0xD800) * 1024 + (low - 0xDC00))

/-- The text begins with an escape of the second half of a surrogate pair. -/
def BeginsLow (text : Text) : Prop :=
  ∃ second low more, text = .char '\x5c' :: .char 'u' :: (second ++ more) ∧ WritesUnit second low ∧
    IsLow low

/-- What stands between the quotes of a text, and the text. Two halves of a surrogate pair that
follow each other are one character. -/
inductive WritesText : Text → Text → Prop
  | done : WritesText [] []
  | plain {c : CodePoint} {body said : Text} (hcontrol : 0x20 ≤ c.val) (hquote : c ≠ .char '\x22')
      (hescape : c ≠ .char '\x5c') (h : WritesText body said) : WritesText (c :: body) (c :: said)
  | letter {letter c : CodePoint} {body said : Text} (hletter : letterEscape? letter = some c)
      (h : WritesText body said) : WritesText (.char '\x5c' :: letter :: body) (c :: said)
  | unit {digits body said : Text} {unit : Nat} (hunit : WritesUnit digits unit)
      (halone : IsHigh unit → ¬ BeginsLow body) (h : WritesText body said) :
      WritesText (.char '\x5c' :: .char 'u' :: (digits ++ body)) (.ofNat unit :: said)
  | pair {digits second body said : Text} {high low : Nat} (hfirst : WritesUnit digits high)
      (hhigh : IsHigh high) (hsecond : WritesUnit second low) (hlow : IsLow low)
      (h : WritesText body said) :
      WritesText
        (.char '\x5c' :: .char 'u' :: (digits ++ .char '\x5c' :: .char 'u' :: (second ++ body)))
        (pairOf high low :: said)

/-! ## Values -/

/-- What a stretch of a document may stand for. -/
inductive Piece where
  | value (value : Value)
  | items (items : List Value)
  | entry (entry : Text × Value)
  | entries (entries : List (Text × Value))

/-- What stretch of a document stands for what, in integers of at most so many digits and with room
for so many lists and maps within one another. The blanks after an item or an entry count to the
items and entries, those before the first do not. -/
inductive Writes (most : Nat) : Nat → Text → Piece → Prop
  | word {room : Nat} {text : Text} {value : Value} (h : WritesWord text value) :
      Writes most room text (.value value)
  | number {room : Nat} {text : Text} {value : Value} (h : WritesMagnitude most false text value) :
      Writes most room text (.value value)
  | negative {room : Nat} {text : Text} {value : Value} (h : WritesMagnitude most true text value) :
      Writes most room (.char '-' :: text) (.value value)
  | text {room : Nat} {body said : Text} (h : WritesText body said) :
      Writes most room (.char '\x22' :: (body ++ [.char '\x22'])) (.value (.text said))
  | emptyList {room : Nat} {blanks : Text} (hblanks : IsBlanks blanks) :
      Writes most (room + 1) (.char '[' :: (blanks ++ [.char ']'])) (.value (.list []))
  | list {room : Nat} {blanks text : Text} {items : List Value} (hblanks : IsBlanks blanks)
      (h : Writes most room text (.items items)) :
      Writes most (room + 1) (.char '[' :: (blanks ++ (text ++ [.char ']']))) (.value (.list items))
  | emptyDict {room : Nat} {blanks : Text} (hblanks : IsBlanks blanks) :
      Writes most (room + 1) (.char '\x7b' :: (blanks ++ [.char '\x7d'])) (.value (.dict []))
  | dict {room : Nat} {blanks text : Text} {entries : List (Text × Value)}
      (hblanks : IsBlanks blanks) (h : Writes most room text (.entries entries)) :
      Writes most (room + 1) (.char '\x7b' :: (blanks ++ (text ++ [.char '\x7d'])))
        (.value (.dict (Dict.ofList entries).entries))
  | lastItem {room : Nat} {text blanks : Text} {item : Value}
      (h : Writes most room text (.value item)) (hblanks : IsBlanks blanks) :
      Writes most room (text ++ blanks) (.items [item])
  | moreItems {room : Nat} {text before after rest : Text} {item : Value} {items : List Value}
      (h : Writes most room text (.value item)) (hbefore : IsBlanks before)
      (hafter : IsBlanks after) (hrest : Writes most room rest (.items items)) :
      Writes most room (text ++ (before ++ .char ',' :: (after ++ rest))) (.items (item :: items))
  | entry {room : Nat} {body name before after text : Text} {value : Value}
      (hname : WritesText body name) (hbefore : IsBlanks before) (hafter : IsBlanks after)
      (h : Writes most room text (.value value)) :
      Writes most room
        (.char '\x22' :: (body ++ .char '\x22' :: (before ++ .char ':' :: (after ++ text))))
        (.entry (name, value))
  | lastEntry {room : Nat} {text blanks : Text} {entry : Text × Value}
      (h : Writes most room text (.entry entry)) (hblanks : IsBlanks blanks) :
      Writes most room (text ++ blanks) (.entries [entry])
  | moreEntries {room : Nat} {text before after rest : Text} {entry : Text × Value}
      {entries : List (Text × Value)} (h : Writes most room text (.entry entry))
      (hbefore : IsBlanks before) (hafter : IsBlanks after)
      (hrest : Writes most room rest (.entries entries)) :
      Writes most room (text ++ (before ++ .char ',' :: (after ++ rest)))
        (.entries (entry :: entries))

/-- The text is a document of a value within the limits: the value with blanks around it. -/
def IsDocumentWithin (most room : Nat) (document : Text) (value : Value) : Prop :=
  ∃ before text after, document = before ++ (text ++ after) ∧ IsBlanks before ∧ IsBlanks after ∧
    Writes most room text (.value value)

/-- The text is a document of a value, whatever the length of its integers and the depth of its lists
and maps. -/
def IsDocument (document : Text) (value : Value) : Prop :=
  ∃ most room, IsDocumentWithin most room document value

/-! ## Where reading stops -/

/-- Where such a text begins, an integer cannot go on, nor become a double. -/
def IsBoundary (rest : Text) : Prop :=
  (∀ c, rest.head? = some c → isAsciiDigit c = false) ∧
    (∀ front digits, front <+: rest → WritesFraction front digits → front = []) ∧
    ∀ front power, front <+: rest → WritesExponent front power → front = []

/-- The text begins with an integer of too many digits. -/
def BeginsLong (text : Text) : Prop :=
  ∃ whole rest, text = whole ++ rest ∧ IsWhole whole ∧ digitLimit < whole.length ∧ IsBoundary rest

/-- Where reading begins. -/
inductive Start where
  | value
  | items
  | entry
  | entries

/-- What is of the form of a document within the limits comes to an integer of too many digits, or to
a list or a map that there is no room for. -/
inductive Stalls : Nat → Start → Refusal → Text → Prop
  | integer {room : Nat} {text : Text} (h : BeginsLong text) :
      Stalls room .value .tooManyDigits text
  | negative {room : Nat} {text : Text} (h : BeginsLong text) :
      Stalls room .value .tooManyDigits (.char '-' :: text)
  | deepList {text : Text} : Stalls 0 .value .tooDeep (.char '[' :: text)
  | deepDict {text : Text} : Stalls 0 .value .tooDeep (.char '\x7b' :: text)
  | list {room : Nat} {refusal : Refusal} {blanks text : Text} (hblanks : IsBlanks blanks)
      (h : Stalls room .items refusal text) :
      Stalls (room + 1) .value refusal (.char '[' :: (blanks ++ text))
  | dict {room : Nat} {refusal : Refusal} {blanks text : Text} (hblanks : IsBlanks blanks)
      (h : Stalls room .entries refusal text) :
      Stalls (room + 1) .value refusal (.char '\x7b' :: (blanks ++ text))
  | item {room : Nat} {refusal : Refusal} {text : Text} (h : Stalls room .value refusal text) :
      Stalls room .items refusal text
  | laterItem {room : Nat} {refusal : Refusal} {text before after rest : Text} {item : Value}
      (h : Writes digitLimit room text (.value item)) (hbefore : IsBlanks before)
      (hafter : IsBlanks after) (hrest : Stalls room .items refusal rest) :
      Stalls room .items refusal (text ++ (before ++ .char ',' :: (after ++ rest)))
  | entry {room : Nat} {refusal : Refusal} {body name before after text : Text}
      (hname : WritesText body name) (hbefore : IsBlanks before) (hafter : IsBlanks after)
      (h : Stalls room .value refusal text) :
      Stalls room .entry refusal
        (.char '\x22' :: (body ++ .char '\x22' :: (before ++ .char ':' :: (after ++ text))))
  | firstEntry {room : Nat} {refusal : Refusal} {text : Text} (h : Stalls room .entry refusal text) :
      Stalls room .entries refusal text
  | laterEntry {room : Nat} {refusal : Refusal} {text before after rest : Text}
      {entry : Text × Value} (h : Writes digitLimit room text (.entry entry))
      (hbefore : IsBlanks before) (hafter : IsBlanks after)
      (hrest : Stalls room .entries refusal rest) :
      Stalls room .entries refusal (text ++ (before ++ .char ',' :: (after ++ rest)))

/-- The text is a document up to where reading it stops. -/
def IsStopped (room : Nat) (refusal : Refusal) (document : Text) : Prop :=
  ∃ blanks text, document = blanks ++ text ∧ IsBlanks blanks ∧ Stalls room .value refusal text

end Breakpoint.Document
