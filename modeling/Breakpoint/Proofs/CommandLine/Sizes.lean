import Breakpoint.CommandLine.Value
import Breakpoint.Proofs.Decimal.Words

/-!
# Sizes on the command line

A size that is taken has a width and a height that are not below zero. They are at least zero
wherever they are numbers. The word for no number is taken as well, though it is no size.
-/

namespace Breakpoint.CommandLine

open Text Decimal

variable {text first second half value : Text} {mark : Char} {width height extent : Extent}

/-- A text is cut at the first of the marks in it. -/
theorem cutAt_eq_some_iff : cutAt mark text = some (first, second) ↔
    text = first ++ .char mark :: second ∧ .char mark ∉ first := by
  rw [cutAt]
  constructor
  · intro h
    split at h
    · cases h
    · next c rest hrest =>
      cases h
      have hhead := List.head?_dropWhile_not (· != .char mark) text
      rw [hrest] at hhead
      have hmark : c = .char mark := by simpa using hhead
      subst hmark
      refine ⟨?_, fun hmember => ?_⟩
      · rw [← hrest, List.takeWhile_append_dropWhile]
      · simpa using List.mem_takeWhile_imp hmember
  · rintro ⟨rfl, hfirst⟩
    have hpasses := bne_of_notMem hfirst
    rw [List.dropWhile_append_of_pos hpasses, List.dropWhile_cons_of_neg (by simp),
      List.takeWhile_append_of_pos hpasses, List.takeWhile_cons_of_neg (by simp), List.append_nil]

/-- The halves of a size are what its text holds before and after the first x, in lower case and
without spaces. -/
def HasHalves (value first second : Text) : Prop :=
  (Text.lower value).filter (· != .char ' ') = first ++ .char 'x' :: second ∧ .char 'x' ∉ first

/-- The extent is read of a half of a size, and at least zero unless the half writes no number. -/
structure IsExtentOf (half : Text) (extent : Extent) : Prop where
  read : Extent.read? half = some extent
  zero_le_iff : 0 ≤ extent.value ↔ ¬ WritesNaN half

/-- The extents of halves are those that are not below zero. -/
theorem isExtentOf_iff :
    IsExtentOf half extent ↔ Extent.read? half = some extent ∧ ¬ extent.value < 0 := by
  have hnan (h : Extent.read? half = some extent) : extent.value.isNaN = true ↔ WritesNaN half := by
    obtain ⟨⟨isNegative, value⟩, hsigned, rfl⟩ := Option.map_eq_some_iff.1 h
    exact isNaN_iff_writesNaN hsigned
  constructor
  · intro h
    refine ⟨h.read, fun hbelow => ?_⟩
    have hnumber : ¬ WritesNaN half := by
      rw [← hnan h.read, isNaN_of_lt_zero hbelow]
      exact Bool.false_ne_true
    exact (Decimal.zero_le_iff.1 (h.zero_le_iff.2 hnumber)).1 hbelow
  · rintro ⟨hread, hsign⟩
    refine ⟨hread, ?_⟩
    rw [Decimal.zero_le_iff, ← hnan hread, Bool.not_eq_true]
    exact and_iff_right hsign

/-- A size is taken if both its halves have an extent. -/
theorem parseSize_eq_ok_iff : parseSize value = .ok (width, height) ↔
    ∃ first second, HasHalves value first second ∧ IsExtentOf first width ∧
      IsExtentOf second height := by
  simp only [HasHalves, ← cutAt_eq_some_iff, isExtentOf_iff]
  rw [parseSize]
  constructor
  · intro h
    split at h
    · cases h
    · next first second hhalves =>
      split at h
      · next hwidth hheight =>
        split at h
        · cases h
        · next hsigns =>
          cases h
          rw [Bool.or_eq_true, decide_eq_true_eq, decide_eq_true_eq, not_or] at hsigns
          exact ⟨first, second, hhalves, ⟨hwidth, hsigns.1⟩, hheight, hsigns.2⟩
      · cases h
  · rintro ⟨first, second, hhalves, ⟨hwidth, hwidthSign⟩, hheight, hheightSign⟩
    have hsigns : ¬ (decide (width.value < 0) || decide (height.value < 0)) = true := by
      rw [Bool.or_eq_true, decide_eq_true_eq, decide_eq_true_eq, not_or]
      exact ⟨hwidthSign, hheightSign⟩
    simp only [hhalves, hwidth, hheight, if_neg hsigns]

/-- A size is refused for one of three reasons. -/
theorem mem_of_parseSize_eq_error {fault : ValueFault} (h : parseSize value = .error fault) :
    fault ∈ [.notSize value, .invalidSize value, .negativeSize value] := by
  rw [parseSize] at h
  split at h
  · cases h
    simp
  · split at h
    · split at h
      · cases h
        simp
      · cases h
    · cases h
      simp

/-- A size is refused for one of three reasons, and only if its halves have no extents, or it has a
width and a height, which are at least zero unless their halves of the text write no number. -/
theorem parseSize_refused_or_extents (value : Text) :
    (∃ fault ∈ [.notSize value, .invalidSize value, .negativeSize value],
      parseSize value = .error fault ∧ ¬ ∃ first second width height,
        HasHalves value first second ∧ IsExtentOf first width ∧ IsExtentOf second height) ∨
    ∃ first second width height, HasHalves value first second ∧
      parseSize value = .ok (width, height) ∧ IsExtentOf first width ∧ IsExtentOf second height := by
  cases h : parseSize value with
  | error fault =>
    refine .inl ⟨fault, mem_of_parseSize_eq_error h, rfl, ?_⟩
    rintro ⟨first, second, width, height, hextents⟩
    have htaken := parseSize_eq_ok_iff.2 ⟨first, second, hextents⟩
    rw [h] at htaken
    cases htaken
  | ok size =>
    obtain ⟨first, second, hhalves, hwidth, hheight⟩ := parseSize_eq_ok_iff.1 h
    exact .inr ⟨first, second, size.1, size.2, hhalves, rfl, hwidth, hheight⟩

/-- The word for no number is taken for a width, which is not at least zero then. -/
theorem nan_taken_for_width :
    ∃ width height, parseSize "nanx5" = .ok (width, height) ∧ ¬ 0 ≤ width.value := by
  refine ⟨⟨0 / 0, false⟩, ⟨5, false⟩, ?_, ?_⟩
  · decide +kernel
  · decide +kernel

end Breakpoint.CommandLine
