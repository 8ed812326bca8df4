import Breakpoint.Proofs.Query.Nesting
import Breakpoint.Proofs.Query.Grammar

/-!
# Commas and conjunctions outside parentheses

The conjunction is looked for in the lower case of a text. Without a dotted capital I the lower
case is in step with the text, and beyond ASCII no code point becomes one of those of the
conjunction. So the conjunction is found where it is written in ASCII letters.
-/

namespace Breakpoint.Query

open Breakpoint.Text

/-- Two code points that are not told apart by looking for the marks. -/
def Alike (marks : Text) (first second : CodePoint) : Prop :=
  ∀ mark ∈ marks, mark = first ↔ mark = second

variable {needle shadow other text : Text}

/-- A needle of marks begins both of two texts that the marks do not tell apart, or neither. -/
theorem isPrefixOf_congr {marks : Text} (hneedle : ∀ c ∈ needle, c ∈ marks)
    (h : List.Forall₂ (Alike marks) shadow other) :
    needle.isPrefixOf shadow = needle.isPrefixOf other := by
  induction needle generalizing shadow other with
  | nil => rfl
  | cons mark needle ih =>
    rw [List.forall_mem_cons] at hneedle
    cases h with
    | nil => rfl
    | @cons first second shadow other hfirst hrest =>
      have hsame : (mark == first) = (mark == second) := by
        rw [Bool.eq_iff_iff, beq_iff_eq, beq_iff_eq]
        exact hfirst mark hneedle.1
      rw [List.isPrefixOf_cons_cons, List.isPrefixOf_cons_cons, hsame, ih hneedle.2 hrest]

/-- Shadows that the needle does not tell apart are cut at the same places. -/
theorem splitFrom_congr (h : List.Forall₂ (Alike needle) shadow other) (width : Nat) (depth : Int)
    (skip : Nat) (current : Text) :
    splitFrom needle width depth skip current shadow text =
      splitFrom needle width depth skip current other text := by
  induction text generalizing shadow other depth skip current with
  | nil => rfl
  | cons c rest ih =>
    have htail : List.Forall₂ (Alike needle) shadow.tail other.tail := by
      cases h with
      | nil => exact .nil
      | cons _ hrest => exact hrest
    cases skip with
    | succ skip => exact ih htail depth skip current
    | zero =>
      rw [splitFrom, splitFrom, isPrefixOf_congr (fun _ => id) h, ih htail, ih htail, ih htail,
        ih htail]

/-! ## Lower case beyond ASCII -/

/-- No capital letter beyond ASCII moves to another ASCII character than `k`. -/
theorem capitalRuns_beyond : ∀ run ∈ capitalRuns, 0x80 ≤ (run.first : Int) + run.shift ∨
    run.first = run.last ∧ (run.first : Int) + run.shift = 0x6B := by
  decide +kernel

/-- The number of the character of a number is that number, or zero if it has none. -/
theorem toNat_ofNat (n : Nat) : (Char.ofNat n).toNat = n ∨ (Char.ofNat n).toNat = 0 := by
  by_cases hvalid : n.isValidChar
  · left
    rw [Char.ofNat, dif_pos hvalid]
    rfl
  · right
    rw [Char.ofNat, dif_neg hvalid]
    rfl

/-- The numbers of the code points of the conjunction. -/
theorem val_of_mem_conjunction {c : CodePoint} (h : c ∈ Written.conjunction) :
    c.val = 0x20 ∨ c.val = 0x61 ∨ c.val = 0x6E ∨ c.val = 0x64 := by
  have hall : ∀ c ∈ Written.conjunction,
      c.val = 0x20 ∨ c.val = 0x61 ∨ c.val = 0x6E ∨ c.val = 0x64 := by decide
  exact hall c h

/-- Outside ASCII text no code point is part of a conjunction. -/
theorem notMem_conjunction {c : CodePoint} (h : ¬ c.val < 0x80) : c ∉ Written.conjunction := by
  intro hmember
  have hval := val_of_mem_conjunction hmember
  omega

/-- Beyond ASCII, no lower case is a code point of the conjunction. -/
theorem lowerBeyondAscii_notMem {c : Char} (h : ¬ c.toNat < 0x80) :
    CodePoint.char (lowerBeyondAscii c) ∉ Written.conjunction := by
  rw [lowerBeyondAscii]
  split
  · next run hrun =>
    have hmoves := List.find?_some hrun
    have hbeyond := capitalRuns_beyond run (List.mem_of_find?_eq_some hrun)
    simp only [CaseRun.moves, Bool.and_eq_true, decide_eq_true_eq] at hmoves
    intro hmember
    have hval : (Char.ofNat (c.toNat + run.shift).toNat).toNat = 0x20 ∨
        (Char.ofNat (c.toNat + run.shift).toNat).toNat = 0x61 ∨
        (Char.ofNat (c.toNat + run.shift).toNat).toNat = 0x6E ∨
        (Char.ofNat (c.toNat + run.shift).toNat).toNat = 0x64 := val_of_mem_conjunction hmember
    rcases toNat_ofNat (c.toNat + run.shift).toNat with hsame | hzero <;> omega
  · exact notMem_conjunction h

/-- The lower case of a code point other than the dotted capital I is taken for the conjunction
where the code point in ASCII lower case is. -/
theorem exists_lowerAt {c : CodePoint} (hdotted : c ≠ .char 'İ') (before after : Text) :
    ∃ lowered, lowerAt before c after = [lowered] ∧
      Alike Written.conjunction lowered (lowerPlain c) := by
  have halike : ∀ {first second : CodePoint}, first ∉ Written.conjunction →
      second ∉ Written.conjunction → Alike Written.conjunction first second := by
    intro first second hfirst hsecond mark hmark
    constructor
    · rintro rfl
      exact absurd hmark hfirst
    · rintro rfl
      exact absurd hmark hsecond
  cases c with
  | surrogate index => exact ⟨_, rfl, fun _ _ => Iff.rfl⟩
  | char c =>
    by_cases hascii : c.toNat < 0x80
    · exact ⟨_, by rw [lowerAt, if_pos hascii],
        by rw [lowerPlain, if_pos hascii]; exact fun _ _ => Iff.rfl⟩
    · have hplain : lowerPlain (.char c) ∉ Written.conjunction := by
        rw [lowerPlain, if_neg hascii]
        exact notMem_conjunction hascii
      have hne : c ≠ 'İ' := fun hsame => hdotted (by rw [hsame])
      by_cases hsigma : c = 'Σ'
      · have hfinal : ∀ lowered ∈ [CodePoint.char 'ς', .char 'σ'],
            lowered ∉ Written.conjunction := by decide
        simp only [lowerAt, if_neg hascii, if_neg hne, if_pos hsigma]
        split
        · exact ⟨_, rfl, halike (hfinal _ (by simp)) hplain⟩
        · exact ⟨_, rfl, halike (hfinal _ (by simp)) hplain⟩
      · simp only [lowerAt, if_neg hascii, if_neg hne, if_neg hsigma]
        exact ⟨_, rfl, halike (lowerBeyondAscii_notMem hascii) hplain⟩

/-- The lower case of a text without the dotted capital I is in step with the text. -/
theorem alike_lowerAfter (h : .char 'İ' ∉ text) (before : Text) :
    List.Forall₂ (Alike Written.conjunction) (lowerAfter before text) (text.map lowerPlain) := by
  induction text generalizing before with
  | nil => exact .nil
  | cons c text ih =>
    rw [List.mem_cons, not_or] at h
    obtain ⟨lowered, hlowered, halike⟩ := exists_lowerAt (Ne.symm h.1) before text
    rw [lowerAfter, hlowered]
    exact .cons halike (ih h.2 _)

/-! ## The two separators -/

/-- A comma is a delimiter. -/
theorem isDelimiter_comma : IsDelimiter id [.char ','] where
  nonempty := by simp
  plain := by
    intro c hc
    rw [id, List.mem_singleton] at hc
    subst hc
    decide

/-- A conjunction is a delimiter. -/
theorem isDelimiter_conjunction : IsDelimiter lowerPlain Written.conjunction where
  nonempty := by simp [Written.conjunction]
  plain := by
    intro c hc
    constructor
    · rintro rfl
      exact absurd hc (by decide)
    · rintro rfl
      exact absurd hc (by decide)

/-- A text is cut at its commas outside parentheses. -/
theorem cuts_comma (text : Text) :
    Cuts id [.char ','] text (splitTopLevel text "," false) := by
  rw [Written.splitTopLevel_comma]
  exact cuts_splitFrom isDelimiter_comma text

/-- In a text without the dotted capital I, conjunctions are found in the ASCII lower case. -/
theorem splitTopLevel_conjunction (h : .char 'İ' ∉ text) :
    splitTopLevel text " and " true =
      splitFrom Written.conjunction Written.conjunction.length 0 0 [] (text.map lowerPlain) text :=
  splitFrom_congr (alike_lowerAfter h []) _ _ _ _

/-- A text without the dotted capital I is cut at its conjunctions outside parentheses. -/
theorem cuts_conjunction (h : .char 'İ' ∉ text) :
    Cuts lowerPlain Written.conjunction text (splitTopLevel text " and " true) := by
  rw [splitTopLevel_conjunction h]
  exact cuts_splitFrom isDelimiter_conjunction text

end Breakpoint.Query
