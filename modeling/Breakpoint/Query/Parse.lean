import Breakpoint.Log
import Breakpoint.Query.FeatureText
import Breakpoint.Query.Split
import Breakpoint.Text.Quoted

/-!
# Parsing media queries

A query is cut at its commas, then at its conjunctions, then its negations are taken off, and
what is left is one feature between parentheses. Each part is read like a whole query again:
blanks around it and a media type before it do not count.

The reading of a part lies on the stack above that of the whole. A query whose parts nest deeper
than the stack has room for ends the reading, with a fault that is no fault of a part.
-/

namespace Breakpoint

/-- Why a part of a query cannot be read. -/
inductive SyntaxReason where
  | emptyQuery
  | noFeature
  | unsupportedFeature
  deriving DecidableEq, Repr

/-- The words for a reason. -/
def SyntaxReason.text : SyntaxReason → Text
  | .emptyQuery => "Empty media query"
  | .noFeature => "Expected a parenthesised media feature"
  | .unsupportedFeature => "Unsupported media query feature"

/-- The part of a query that cannot be read, and why. -/
structure SyntaxFault where
  reason : SyntaxReason
  fragment : Text
  deriving DecidableEq

/-- Why a query has no tree. -/
inductive ParseFault where
  /-- A part of it cannot be read. -/
  | part (fault : SyntaxFault)
  /-- The stack has no room for the reading of a part. -/
  | tooDeep
  deriving DecidableEq

/-- The message of a part that cannot be read. -/
def SyntaxFault.message (fault : SyntaxFault) : Text :=
  fault.reason.text ++ ": " ++ Text.quoted fault.fragment

namespace Query

open Breakpoint.Text

/-- The media types, which do not change the meaning of a query. -/
def mediaTypes : List String := ["screen", "all", "print"]

/-- The text after the blanks at its start, which must be there. -/
def skipGap? : Text → Option Text
  | c :: rest => if isBlank c then some (rest.dropWhile isBlank) else none
  | [] => none

/-- The text after a media type and its conjunction. -/
def afterMediaType? (text : Text) : Option Text := do
  let (_, rest) ← firstWord? isWideSpelling mediaTypes text
  skipGap? (← stripSpelling isWideSpelling "and".toList (← skipGap? rest))

/-- Whether a text is a media type and nothing else. -/
def isMediaType (text : Text) : Bool :=
  mediaTypes.any fun word => stripSpelling isWideSpelling word.toList text == some []

/-- The text without a media type before it. A text that would vanish stays as it is. -/
def dropMediaType (text : Text) : Text :=
  let rest := (afterMediaType? text).getD text
  if rest.isEmpty || isMediaType rest then text else rest

/-- The text after a negation. -/
def afterNot? (text : Text) : Option Text := do
  skipGap? (← stripSpelling isWideSpelling "not".toList text)

/-- How many negations a text starts with, up to a bound, and the text after them. -/
def stripNots : Nat → Text → Nat × Text
  | 0, text => (0, text)
  | bound + 1, text =>
    match afterNot? text with
    | some rest =>
      let (count, rest) := stripNots bound rest
      (count + 1, rest)
    | none => (0, text)

/-- The text between parentheses, not empty and without a closing one inside. -/
def clause? : Text → Option Text
  | .char '(' :: rest =>
    let content := rest.takeWhile (· != .char ')')
    if !content.isEmpty && rest.drop content.length == [.char ')'] then some content else none
  | _ => none

/-- A single feature between parentheses. -/
def parseClause (text : Text) : Except ParseFault Query :=
  match clause? text with
  | some content =>
    match feature? (trim content) with
    | some test => .ok (.feature test)
    | none => .error (.part ⟨.unsupportedFeature, trim content⟩)
  | none =>
    if text.isEmpty then .error (.part ⟨.emptyQuery, ""⟩)
    else .error (.part ⟨.noFeature, text⟩)

/-- The segments of a text, if it is cut anywhere. -/
def cuts? (text delimiter : Text) (ignoreCase : Bool) : Option (List Text) :=
  let parts := splitTopLevel text delimiter ignoreCase
  if parts.isEmpty || parts == [text] then none else some parts

/-- How a text is read, if `read` is how its parts are read. -/
def parseStep (read : Text → Except ParseFault Query) (text : Text) : Except ParseFault Query :=
  let working := dropMediaType (trim text)
  match cuts? working "," false with
  | some parts => (parts.mapM read).map (joinLeft .disj)
  | none =>
    match cuts? working " and " true with
    | some parts => (parts.mapM read).map (joinLeft .conj)
    | none =>
      match stripNots working.length working with
      | (0, rest) => parseClause rest
      | (count, rest) => (read rest).map (negated count)

/-- Reads a text on a stack with room for so many readings. -/
def parseWithin : Nat → Text → Except ParseFault Query
  | 0, _ => .error .tooDeep
  | room + 1, text => parseStep (parseWithin room) text

/-- The record of a query that cannot be read. -/
def rejection (query : Text) (fault : SyntaxFault) : LogRecord :=
  ⟨.warning, .parser, "Unsupported media query " ++ quoted query ++ ": " ++ fault.reason.text
    ++ " " ++ quoted fault.fragment, none⟩

/-- The tree of a query if it can be read, and the record if it cannot. A query that is nested too
deep for the room of the stack is a fault. -/
def parseLogged (room : Nat) (query : Text) : Except Fault (Option Query × List LogRecord) :=
  match parseWithin room query with
  | .ok tree => .ok (some tree, [])
  | .error (.part fault) => .ok (none, [rejection query fault])
  | .error .tooDeep => .error .tooDeep

end Query

end Breakpoint
