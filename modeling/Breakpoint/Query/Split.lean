import Breakpoint.Text.Lower

/-!
# Splitting outside parentheses

A text is cut at each delimiter that stands outside parentheses, from left to right and
without overlap. A closing parenthesis too many makes the depth negative, and nothing is cut
there either. Empty segments are kept, but not an empty one at the end.

Letter case is ignored by looking for the delimiter in the lower case of the text at the same
distance from the start. Where lower case is longer than the text, the places drift apart.
-/

namespace Breakpoint.Query

/-- Splits the rest of a text. `shadow` is what the delimiter is looked for in, at the place of
the text; `width` code points are cut out where it is found, of which `skip` are still to go;
`current` is the segment so far, last code point first. -/
def splitFrom (needle : Text) (width : Nat) (depth : Int) (skip : Nat)
    (current shadow : Text) : Text → List Text
  | [] => if current.isEmpty then [] else [current.reverse]
  | c :: rest =>
    match skip with
    | skip + 1 => splitFrom needle width depth skip current shadow.tail rest
    | 0 =>
      if c = .char '(' then splitFrom needle width (depth + 1) 0 (c :: current) shadow.tail rest
      else if c = .char ')' then splitFrom needle width (depth - 1) 0 (c :: current) shadow.tail rest
      else if depth = 0 ∧ needle.isPrefixOf shadow then
        current.reverse :: splitFrom needle width depth (width - 1) [] shadow.tail rest
      else splitFrom needle width depth 0 (c :: current) shadow.tail rest

/-- The segments of a text between the delimiters outside parentheses. -/
def splitTopLevel (text delimiter : Text) (ignoreCase : Bool) : List Text :=
  if ignoreCase then
    splitFrom (Text.lower delimiter) delimiter.length 0 0 [] (Text.lower text) text
  else splitFrom delimiter delimiter.length 0 0 [] text text

end Breakpoint.Query
