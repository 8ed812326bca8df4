import Mathlib.Data.List.TakeDrop
import Mathlib.Data.List.TakeWhile
import Breakpoint.Decimal.Reading
import Breakpoint.Proofs.Text.Spelling

/-!
# Digits in a text

The readers of numbers take the digits at the start of a text, as many as there are. The reader of
free text first drops the blanks around a number and the underscores between its digits.
-/

namespace Breakpoint.Decimal

/-- The digits at the start of a text are taken off it. -/
theorem exists_spanDigits (text : Text) :
    text = (spanDigits text).1 ++ (spanDigits text).2 ∧
      (∀ c ∈ (spanDigits text).1, isAsciiDigit c = true) := by
  rw [spanDigits, List.span_eq_takeWhile_dropWhile]
  exact ⟨List.takeWhile_append_dropWhile.symm, fun c hc => List.mem_takeWhile_imp hc⟩

/-- What is left of a text begins with no digit. -/
theorem head?_spanDigits {text : Text} {c : CodePoint} (h : (spanDigits text).2.head? = some c) :
    isAsciiDigit c = false := by
  rw [spanDigits, List.span_eq_takeWhile_dropWhile] at h
  have hstop := List.head?_dropWhile_not isAsciiDigit text
  rw [h] at hstop
  exact hstop

/-- Digits are taken up to a point or the end. -/
theorem spanDigits_append {digits : Text} (hdigits : ∀ c ∈ digits, isAsciiDigit c = true)
    (rest : Text) (hrest : ∀ c, rest.head? = some c → isAsciiDigit c = false) :
    spanDigits (digits ++ rest) = (digits, rest) := by
  have hstop : rest.takeWhile isAsciiDigit = [] ∧ rest.dropWhile isAsciiDigit = rest := by
    cases rest with
    | nil => exact ⟨rfl, rfl⟩
    | cons c rest => simp [hrest c rfl]
  rw [spanDigits, List.span_eq_takeWhile_dropWhile, List.takeWhile_append_of_pos hdigits,
    List.dropWhile_append_of_pos hdigits, hstop.1, hstop.2, List.append_nil]

/-- A text without underscores has none to lose. -/
theorem joinDigits?_eq_some {text : Text} (h : .char '_' ∉ text) : joinDigits? text = some text := by
  fun_induction joinDigits? text with
  | case1 => rfl
  | case2 => exact absurd List.mem_cons_self h
  | case3 => simp at h
  | case4 => simp at h
  | case5 c rest _ _ ih =>
    rw [List.mem_cons, not_or] at h
    rw [ih h.2]
    rfl

/-- What is plain and has no blanks and no underscores is prepared for reading as it stands between
blanks. -/
theorem prepare?_of_blanks {before core after : Text}
    (hbefore : ∀ c ∈ before, Text.isAsciiBlank (plain c) = true)
    (hafter : ∀ c ∈ after, Text.isAsciiBlank (plain c) = true)
    (hcore : ∀ c ∈ core, plain c = c ∧ Text.isAsciiBlank c = false) (hne : core ≠ [])
    (hunderscore : .char '_' ∉ core) : prepare? (before ++ (core ++ after)) = some core := by
  have hplain : core.map plain = core :=
    (List.map_congr_left fun c hc => (hcore c hc).1).trans core.map_id
  rw [prepare?, List.map_append, List.map_append, hplain, ← List.append_assoc,
    Text.dropTrailing_dropWhile (List.forall_mem_map.2 hbefore) (List.forall_mem_map.2 hafter) hne
      (fun c hc => (hcore c (List.mem_of_head? hc)).2)
      (fun c hc => (hcore c (List.mem_of_getLast? hc)).2)]
  exact joinDigits?_eq_some hunderscore

end Breakpoint.Decimal
