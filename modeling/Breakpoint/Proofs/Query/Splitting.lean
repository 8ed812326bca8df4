import Mathlib.Data.List.Basic
import Breakpoint.Query.Split

/-!
# Where a text is cut

The scan for delimiters goes over a text once. A piece that it goes through without a cut is
described by what the scan makes of it, for a given text after it: such pieces can be put one
after the other. Between two pieces, a delimiter cuts.

The shadow of a text is the text itself with each code point folded, so that it stays in step
with the text.
-/

namespace Breakpoint.Query

variable {fold : CodePoint → CodePoint} {needle : Text}

/-- The scan goes through a piece without a cut, if `rest` comes after it. -/
def Uncut (fold : CodePoint → CodePoint) (needle piece rest : Text) : Prop :=
  ∀ width current, splitFrom needle width 0 0 current ((piece ++ rest).map fold) (piece ++ rest) =
    splitFrom needle width 0 0 (piece.reverse ++ current) (rest.map fold) rest

namespace Uncut

variable {first second rest : Text}

/-- Through an empty piece the scan goes without a cut. -/
theorem nil (rest : Text) : Uncut fold needle [] rest := fun _ _ => rfl

/-- Two pieces without a cut make one. -/
theorem append (hfirst : Uncut fold needle first (second ++ rest))
    (hsecond : Uncut fold needle second rest) : Uncut fold needle (first ++ second) rest := by
  intro width current
  rw [List.append_assoc, hfirst, hsecond, List.reverse_append, List.append_assoc]

/-- A code point that is no parenthesis and begins no delimiter. -/
theorem single {c : CodePoint} (hopen : c ≠ .char '(') (hclose : c ≠ .char ')')
    (hneedle : ¬ needle <+: (c :: rest).map fold) : Uncut fold needle [c] rest := by
  intro width current
  have hnone : ¬ ((0 : Int) = 0 ∧ needle.isPrefixOf ((c :: rest).map fold) = true) := by
    rw [List.isPrefixOf_iff_prefix]
    exact fun hcut => hneedle hcut.2
  rw [List.singleton_append, splitFrom, if_neg hopen, if_neg hclose, if_neg hnone]
  rfl

/-- A piece none of whose code points can begin the delimiter. -/
theorem of_forall {begins : CodePoint} {piece : Text}
    (hpiece : ∀ c ∈ piece, c ≠ .char '(' ∧ c ≠ .char ')' ∧ fold c ≠ begins) (rest : Text) :
    Uncut fold (begins :: needle) piece rest := by
  induction piece with
  | nil => exact nil rest
  | cons c piece ih =>
    rw [List.forall_mem_cons] at hpiece
    obtain ⟨⟨hopen, hclose, hbegins⟩, hrest⟩ := hpiece
    have hfirst : Uncut fold (begins :: needle) [c] (piece ++ rest) := by
      apply single hopen hclose
      rw [List.map_cons, List.cons_prefix_cons]
      exact fun hcut => hbegins hcut.1.symm
    exact hfirst.append (ih hrest)

end Uncut

/-- Inside of parentheses nothing is cut. -/
theorem splitFrom_inside {content : Text} (hopen : .char '(' ∉ content) (hclose : .char ')' ∉ content)
    (width : Nat) (current rest : Text) :
    splitFrom needle width 1 0 current ((content ++ rest).map fold) (content ++ rest) =
      splitFrom needle width 1 0 (content.reverse ++ current) (rest.map fold) rest := by
  induction content generalizing current with
  | nil => rfl
  | cons c content ih =>
    rw [List.mem_cons, not_or] at hopen hclose
    rw [List.cons_append, splitFrom, if_neg (Ne.symm hopen.1), if_neg (Ne.symm hclose.1),
      if_neg (by simp)]
    rw [List.map_cons, List.tail_cons, ih hopen.2 hclose.2, List.reverse_cons, List.append_assoc,
      List.singleton_append]

/-- A pair of parentheses without further ones between them is not cut. -/
theorem uncut_parentheses {content : Text} (hopen : .char '(' ∉ content)
    (hclose : .char ')' ∉ content) (rest : Text) :
    Uncut fold needle (.char '(' :: content ++ [.char ')']) rest := by
  intro width current
  rw [List.cons_append, List.cons_append, splitFrom, if_pos rfl, List.map_cons, List.tail_cons,
    List.append_assoc, Int.zero_add, splitFrom_inside hopen hclose, List.singleton_append,
    splitFrom, if_neg (by decide), if_pos rfl, List.map_cons, List.tail_cons]
  simp

/-- The code points of a delimiter are passed over. -/
theorem splitFrom_skip (delimiter rest : Text) (width : Nat) (depth : Int) (current : Text) :
    splitFrom needle width depth delimiter.length current ((delimiter ++ rest).map fold)
        (delimiter ++ rest) =
      splitFrom needle width depth 0 current (rest.map fold) rest := by
  induction delimiter with
  | nil => rfl
  | cons c delimiter ih => exact ih

/-- A delimiter ends the segment before it. -/
theorem splitFrom_cut {delimiter : Text} {c : CodePoint} {first rest : Text}
    (hfirst : Uncut fold needle first (c :: delimiter ++ rest)) (hopen : c ≠ .char '(')
    (hclose : c ≠ .char ')') (hneedle : (c :: delimiter).map fold = needle) {width : Nat}
    (hwidth : width = delimiter.length + 1) :
    splitFrom needle width 0 0 [] ((first ++ (c :: delimiter ++ rest)).map fold)
        (first ++ (c :: delimiter ++ rest)) =
      first :: splitFrom needle width 0 0 [] (rest.map fold) rest := by
  subst hwidth
  have hfound : needle.isPrefixOf ((c :: delimiter ++ rest).map fold) = true := by
    rw [List.isPrefixOf_iff_prefix, List.map_append, hneedle]
    exact List.prefix_append _ _
  rw [hfirst, List.cons_append, splitFrom, if_neg hopen, if_neg hclose,
    if_pos ⟨rfl, by rw [← List.cons_append]; exact hfound⟩, List.map_cons, List.tail_cons,
    Nat.add_sub_cancel, splitFrom_skip]
  simp

/-- What is left at the end is the last segment, unless it is empty. -/
theorem splitFrom_last {last : Text} (hlast : Uncut fold needle last []) (hne : last ≠ [])
    (width : Nat) : splitFrom needle width 0 0 [] (last.map fold) last = [last] := by
  have hscan := hlast width []
  rw [List.append_nil, List.append_nil] at hscan
  rw [hscan, splitFrom, if_neg (by simpa using hne), List.reverse_reverse]

end Breakpoint.Query
