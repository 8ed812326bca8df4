import Breakpoint.Proofs.Query.FeatureText
import Breakpoint.Proofs.Text.Digits
import Breakpoint.Value.Number

/-!
# The numbers of a query

Lengths and the sides of aspect ratios are taken from the text of a feature figure by figure, by
readers that know less than the reader of free text does. What they take is a number for that reader
too, and the same one, so that no number of a query is taken that could not be read.
-/

namespace Breakpoint

open Text Decimal

variable {c : CodePoint} {text rest : Text}

namespace Decimal

/-- A code point from the plus sign to the nine. The signs, the point and the digits are among
them. -/
def IsFigure (c : CodePoint) : Prop := 0x2B ≤ c.val ∧ c.val ≤ 0x39

instance : DecidablePred IsFigure := fun c =>
  inferInstanceAs (Decidable (0x2B ≤ c.val ∧ c.val ≤ 0x39))

/-- A digit is part of a number. -/
theorem isFigure_of_isAsciiDigit (h : isAsciiDigit c = true) : IsFigure c := by
  rw [isAsciiDigit, Bool.and_eq_true, decide_eq_true_eq, decide_eq_true_eq] at h
  exact ⟨by omega, h.2⟩

/-- No part of a number is a blank. -/
theorem isAsciiBlank_of_isFigure (h : IsFigure c) : isAsciiBlank c = false := by
  rw [IsFigure] at h
  simp only [isAsciiBlank, Bool.or_eq_false_iff, beq_eq_false_iff_ne, Bool.and_eq_false_iff,
    decide_eq_false_iff_not]
  omega

/-- The parts of a number are read as they are. -/
theorem plain_of_isFigure (h : IsFigure c) : plain c = c := by
  rw [IsFigure] at h
  rw [plain, if_pos (by omega)]

/-! ## What is taken -/

/-- A sign or none is taken off the front, and it is taken off the front of other texts that begin
like the rest. -/
theorem exists_stripSign (text : Text) :
    ∃ sign, text = sign ++ (stripSign text).2 ∧ (∀ c ∈ sign, IsFigure c) ∧
      ∀ magnitude, magnitude ≠ [] → magnitude <+: (stripSign text).2 →
        stripSign (sign ++ magnitude) = ((stripSign text).1, magnitude) := by
  rw [stripSign.eq_def]
  split
  · exact ⟨[.char '-'], rfl, by decide, fun _ _ _ => rfl⟩
  · exact ⟨[.char '+'], rfl, by decide, fun _ _ _ => rfl⟩
  · next hminus hplus =>
    refine ⟨[], rfl, List.forall_mem_nil _, fun magnitude hne hfront => ?_⟩
    obtain ⟨rest, rfl⟩ := hfront
    rw [List.nil_append, stripSign.eq_def]
    split
    · exact absurd rfl (hminus _)
    · exact absurd rfl (hplus _)
    · rfl

/-! ## What is read -/

/-- Figures are read as they stand. -/
theorem prepare?_figures (h : ∀ c ∈ text, IsFigure c) : prepare? text = some text := by
  by_cases hempty : text = []
  · rw [hempty]
    rfl
  · have hunderscore : .char '_' ∉ text := fun hmember => absurd (h _ hmember) (by decide)
    have hprepared := prepare?_of_blanks (List.forall_mem_nil _) (List.forall_mem_nil _)
      (fun c hc => ⟨plain_of_isFigure (h c hc), isAsciiBlank_of_isFigure (h c hc)⟩) hempty hunderscore
    rwa [List.nil_append, List.append_nil] at hprepared

/-- No word is made of figures. -/
theorem word?_figures (h : ∀ c ∈ text, IsFigure c) : word? text = none := by
  cases text with
  | nil => rfl
  | cons c text =>
    have hspells : ∀ letter : Char, letter.isLower = true → isAsciiSpelling letter c = false := by
      intro letter hlower
      rw [Bool.eq_false_iff]
      intro hspelled
      have hfigure := h c List.mem_cons_self
      have hletter := isLetter_of_isAsciiSpelling hlower hspelled
      rw [IsFigure] at hfigure
      rw [IsLetter] at hletter
      omega
    simp [word?, stripSpelling, hspells]

/-- Digits are a number. -/
theorem unsigned?_digits {whole : Text} (hne : whole ≠ [])
    (hdigits : ∀ c ∈ whole, isAsciiDigit c = true) :
    unsigned? whole = some (nearest (digitsValue whole) 0) := by
  have hspan := spanDigits_append hdigits [] (by simp)
  rw [List.append_nil] at hspan
  have hempty : whole.isEmpty = false := by simpa using hne
  simp [unsigned?, hspan, hempty, exponent?]

/-- Digits after a point are a number, with or without digits before it. -/
theorem unsigned?_point {whole fraction : Text} (hne : fraction ≠ [])
    (hwhole : ∀ c ∈ whole, isAsciiDigit c = true) (hfraction : ∀ c ∈ fraction, isAsciiDigit c = true) :
    unsigned? (whole ++ .char '.' :: fraction) =
      some (nearest (digitsValue (whole ++ fraction)) (-fraction.length)) := by
  have hspan := spanDigits_append hwhole (.char '.' :: fraction) (by simp; decide)
  have hafter := spanDigits_append hfraction [] (by simp)
  rw [List.append_nil] at hafter
  have hempty : fraction.isEmpty = false := by simpa using hne
  simp [unsigned?, hspan, hafter, hempty, exponent?]

/-- Figures are read as the sign at their front and the number after it. -/
theorem signed?_figures (h : ∀ c ∈ text, IsFigure c) {isNegative : Bool} {magnitude : Float}
    (hsign : stripSign text = (isNegative, rest)) (hnumber : unsigned? rest = some magnitude) :
    signed? text = some (isNegative, withSign isNegative magnitude) := by
  have hrest : ∀ c ∈ rest, IsFigure c := by
    obtain ⟨sign, htext, -⟩ := exists_stripSign text
    rw [hsign] at htext
    exact fun c hc => h c (htext ▸ List.mem_append_right sign hc)
  simp only [signed?, prepare?_figures h, Option.bind_eq_bind, Option.bind_some, hsign,
    word?_figures hrest, hnumber]
  rfl

end Decimal

namespace Query

/-- What is taken for a length is, after its sign, a number of figures. -/
theorem exists_magnitude_of_length? {value : Float} (h : length? text = some (value, rest)) :
    ∃ magnitude number, (stripSign text).2 = magnitude ++ rest ∧ magnitude ≠ [] ∧
      (∀ c ∈ magnitude, IsFigure c) ∧ unsigned? magnitude = some number ∧
      value = withSign (stripSign text).1 number := by
  rw [length?] at h
  generalize stripSign text = signed at h ⊢
  obtain ⟨isNegative, unsigned⟩ := signed
  dsimp only at h ⊢
  obtain ⟨hunsigned, hwhole⟩ := exists_spanDigits unsigned
  generalize spanDigits unsigned = spanned at h hunsigned hwhole
  obtain ⟨whole, after⟩ := spanned
  dsimp only at h hunsigned hwhole
  have hfigures : ∀ c ∈ whole, IsFigure c := fun c hc => isFigure_of_isAsciiDigit (hwhole c hc)
  split at h
  · next beyond =>
    -- with a point, the digits after it are taken
    obtain ⟨hbeyond, hfraction⟩ := exists_spanDigits beyond
    split at h
    · cases h
    · next hsome =>
      cases h
      rw [List.isEmpty_iff] at hsome
      refine ⟨whole ++ .char '.' :: (spanDigits beyond).1, _, ?_, by simp, ?_,
        unsigned?_point hsome hwhole hfraction, rfl⟩
      · rw [hunsigned, List.append_assoc, List.cons_append, ← hbeyond]
      · simp only [List.forall_mem_append, List.forall_mem_cons]
        exact ⟨hfigures, by decide, fun c hc => isFigure_of_isAsciiDigit (hfraction c hc)⟩
  · next hpoint =>
    split at h
    · cases h
    · next hsome =>
      have hhead : after.head? ≠ some (.char '.') := by
        intro hhead
        obtain ⟨beyond, hbeyond⟩ := List.head?_eq_some_iff.1 hhead
        exact hpoint beyond hbeyond
      simp only [if_neg hhead] at h
      cases h
      rw [List.isEmpty_iff] at hsome
      exact ⟨whole, _, hunsigned, hsome, hfigures, unsigned?_digits hsome hwhole, rfl⟩

/-- What is taken for a length is read by the reader of free text, to the same number. -/
theorem exists_of_length? {value : Float} (h : length? text = some (value, rest)) :
    ∃ number isNegative, number <+: text ∧ Value.readExtent number = .ok ⟨value, isNegative⟩ := by
  obtain ⟨sign, htext, hsign, hkept⟩ := exists_stripSign text
  obtain ⟨magnitude, number, htaken, hne, hfigures, hnumber, rfl⟩ := exists_magnitude_of_length? h
  have hsigned := hkept magnitude hne (htaken ▸ List.prefix_append magnitude rest)
  refine ⟨sign ++ magnitude, (stripSign text).1, ⟨rest, ?_⟩, ?_⟩
  · rw [List.append_assoc, ← htaken, ← htext]
  · rw [Value.readExtent, Extent.read?,
      signed?_figures (List.forall_mem_append.2 ⟨hsign, hfigures⟩) hsigned hnumber]
    rfl

/-- Digits are read as a number without a sign. -/
theorem readExtent_digits {digits : Text} (hne : digits ≠ [])
    (hdigits : ∀ c ∈ digits, isAsciiDigit c = true) :
    Value.readExtent digits = .ok ⟨nearest (digitsValue digits) 0, false⟩ := by
  have hsign : stripSign digits = (false, digits) := by
    rw [stripSign.eq_def]
    split
    · exact absurd (hdigits _ List.mem_cons_self) (by decide)
    · exact absurd (hdigits _ List.mem_cons_self) (by decide)
    · rfl
  rw [Value.readExtent, Extent.read?,
    signed?_figures (fun c hc => isFigure_of_isAsciiDigit (hdigits c hc)) hsign
      (unsigned?_digits hne hdigits)]
  rfl

/-! ## The numbers of a feature -/

/-- A number that a text holds: one that a piece of it is read as, or the ratio of two numbers that
it holds. -/
inductive HoldsNumber (text : Text) : Float → Prop where
  | written {piece : Text} {extent : Extent} (stands : piece <:+: text)
      (read : Value.readExtent piece = .ok extent) : HoldsNumber text extent.value
  | ratio {first second : Float} (numerator : HoldsNumber text first)
      (denominator : HoldsNumber text second) : HoldsNumber text (Breakpoint.ratio first second)

/-- What a piece of a text holds, the text holds. -/
theorem HoldsNumber.mono {piece : Text} {value : Float} (h : HoldsNumber piece value)
    (hpiece : piece <:+: text) : HoldsNumber text value := by
  induction h with
  | written stands read => exact .written (stands.trans hpiece) read
  | ratio _ _ ihNumerator ihDenominator => exact .ratio ihNumerator ihDenominator

/-- What comes after the colon of a width, a height or an aspect ratio ends its text. -/
theorem afterColon?_isSuffix_of_measure {words : List String} {name : String}
    {afterName afterColon : Text}
    (hname : firstWord? isAsciiSpelling words (comparisonOf text).2 = some (name, afterName))
    (hcolon : afterColon? isAsciiBlank afterName = some afterColon) : afterColon <:+ text :=
  (afterColon?_isSuffix hcolon).trans
    ((firstWord?_isSuffix hname).trans (comparisonOf_isSuffix text))

/-- A length is held by the text of its dimension. -/
theorem holdsNumber_of_dimension? {test : Feature} {value : Float} (h : dimension? text = some test)
    (hvalue : test.operand = .number value) : HoldsNumber text value := by
  simp only [dimension?, Option.bind_eq_bind, Option.bind_eq_some_iff] at h
  obtain ⟨⟨name, afterName⟩, hname, afterColon, hcolon, ⟨length, afterLength⟩, hlength, h⟩ := h
  split at h
  · cases h
    cases hvalue
    obtain ⟨number, isNegative, hnumber, hread⟩ := exists_of_length? hlength
    have hstands := afterColon?_isSuffix_of_measure hname hcolon
    exact .written (hnumber.isInfix.trans hstands.isInfix) hread
  · cases h

/-- The digits at the start of some rest of a text are a number that the text holds. -/
theorem holdsNumber_spanDigits (hrest : rest <:+ text) (hsome : (spanDigits rest).1 ≠ []) :
    HoldsNumber text (nearest (digitsValue (spanDigits rest).1) 0) := by
  obtain ⟨hsplit, hdigits⟩ := exists_spanDigits rest
  have hfront : (spanDigits rest).1 <+: rest := ⟨_, hsplit.symm⟩
  exact .written (hfront.isInfix.trans hrest.isInfix) (readExtent_digits hsome hdigits)

/-- An aspect ratio is that of two numbers which its text holds. -/
theorem holdsNumber_of_aspectRatio? {test : Feature} {value : Float}
    (h : aspectRatio? text = some test) (hvalue : test.operand = .number value) :
    HoldsNumber text value := by
  simp only [aspectRatio?, Option.bind_eq_bind, Option.bind_eq_some_iff] at h
  obtain ⟨⟨name, afterName⟩, hname, afterColon, hcolon, h⟩ := h
  have hwidth := afterColon?_isSuffix_of_measure hname hcolon
  split at h
  · next afterSlash hslash =>
    split at h
    · cases h
    · next hsome =>
      cases h
      cases hvalue
      simp only [Bool.or_eq_true, not_or, List.isEmpty_iff] at hsome
      have hafterWidth : (spanDigits afterColon).2 <:+ afterColon :=
        ⟨_, (exists_spanDigits afterColon).1.symm⟩
      have hheight : .char '/' :: afterSlash <:+ afterColon :=
        hslash ▸ (List.dropWhile_suffix isAsciiBlank).trans hafterWidth
      have hdigits : afterSlash.dropWhile isAsciiBlank <:+ text :=
        ((List.dropWhile_suffix isAsciiBlank).trans (List.suffix_cons _ _)).trans
          (hheight.trans hwidth)
      exact .ratio (holdsNumber_spanDigits hwidth hsome.1.1)
        (holdsNumber_spanDigits hdigits hsome.1.2)
  · cases h

/-- The number of a feature is held by the text that writes the feature. -/
theorem holdsNumber_of_feature? {test : Feature} {value : Float} (h : feature? text = some test)
    (hvalue : test.operand = .number value) : HoldsNumber text value := by
  rw [feature?, Option.or_eq_some_iff, Option.or_eq_some_iff] at h
  rcases h with hdimension | ⟨-, hratio | ⟨-, hkeyword⟩⟩
  · exact holdsNumber_of_dimension? hdimension hvalue
  · exact holdsNumber_of_aspectRatio? hratio hvalue
  · obtain ⟨feature, -, hfound⟩ := List.exists_of_findSome?_eq_some hkeyword
    simp only [keyword?, Option.bind_eq_bind, Option.bind_eq_some_iff] at hfound
    obtain ⟨_, -, _, -, hfound⟩ := hfound
    split at hfound
    · cases hfound
      cases hvalue
    · cases hfound

end Query

end Breakpoint
