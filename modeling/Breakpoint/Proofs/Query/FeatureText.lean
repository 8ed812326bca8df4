import Mathlib.Data.List.TakeDrop
import Mathlib.Data.List.TakeWhile
import Breakpoint.Proofs.Text.Spelling
import Breakpoint.Query.FeatureText

/-!
# The text of a feature has no parentheses

The readers of a feature take something off the front of a text and leave the rest of it. None of
them takes an opening parenthesis, so one that stands in a text still stands in what they leave. The
text of a feature is read to its end, so it has none.
-/

namespace Breakpoint.Query

open Breakpoint.Text Breakpoint.Decimal

/-- The opening parenthesis is no spelling of another character. -/
theorem isWideSpelling_parenthesis {letter : Char} (h : letter ≠ '(') :
    isWideSpelling letter (.char '(') = false := by
  have hcapital : ¬ (letter.isLower = true ∧ 40 + 32 = letter.toNat) := by
    intro hlower
    have hrange := toNat_of_isLower hlower.1
    omega
  have hascii : isAsciiSpelling letter (.char '(') = false := by
    rw [isAsciiSpelling, Bool.or_eq_false_iff]
    refine ⟨by simpa using Ne.symm h, ?_⟩
    rw [Bool.eq_false_iff, Ne, Bool.and_eq_true, beq_iff_eq]
    exact hcapital
  rw [isWideSpelling, hascii]
  simp

/-- Nor is it one in ASCII text. -/
theorem isAsciiSpelling_parenthesis {letter : Char} (h : letter ≠ '(') :
    isAsciiSpelling letter (.char '(') = false := by
  have hwide := isWideSpelling_parenthesis h
  simp only [isWideSpelling, Bool.or_eq_false_iff] at hwide
  exact hwide.1.1.1

/-- A way to spell words that takes an opening parenthesis for no other character. -/
def SparesParenthesis (spells : Char → CodePoint → Bool) : Prop :=
  ∀ letter, letter ≠ '(' → spells letter (.char '(') = false

/-- Words of all scripts are spelt without it. -/
theorem sparesParenthesis_wide : SparesParenthesis isWideSpelling :=
  fun _ => isWideSpelling_parenthesis

/-- Words of ASCII text are spelt without it. -/
theorem sparesParenthesis_ascii : SparesParenthesis isAsciiSpelling :=
  fun _ => isAsciiSpelling_parenthesis

variable {text rest : Text} {spells : Char → CodePoint → Bool}

/-! ## What the readers leave -/

/-- What is left after a word is the end of the text. -/
theorem stripSpelling_isSuffix {word : List Char}
    (h : stripSpelling spells word text = some rest) : rest <:+ text := by
  rw [(stripSpelling_eq_drop h).1]
  exact List.drop_suffix _ _

/-- What is left after the word for a comparison is the end of the text. -/
theorem comparisonOf_isSuffix (text : Text) : (comparisonOf text).2 <:+ text := by
  rw [comparisonOf]
  split
  · next hleast => exact stripSpelling_isSuffix hleast
  · split
    · next hmost => exact stripSpelling_isSuffix hmost
    · exact List.suffix_refl text

/-- What is left after the first of some words is the end of the text. -/
theorem firstWord?_isSuffix {words : List String} {word : String}
    (h : firstWord? spells words text = some (word, rest)) : rest <:+ text := by
  obtain ⟨found, -, hstripped⟩ := List.exists_of_findSome?_eq_some h
  obtain ⟨after, hafter, hpair⟩ := Option.map_eq_some_iff.1 hstripped
  cases hpair
  exact stripSpelling_isSuffix hafter

/-- What is left after a colon is the end of the text. -/
theorem afterColon?_isSuffix {blank : CodePoint → Bool} (h : afterColon? blank text = some rest) :
    rest <:+ text := by
  rw [afterColon?] at h
  split at h
  · next after hcolon =>
    cases h
    have hblanks := List.dropWhile_suffix (l := text) blank
    rw [hcolon] at hblanks
    exact (List.dropWhile_suffix blank).trans ((List.suffix_cons _ after).trans hblanks)
  · cases h

/-! ## Parentheses -/

/-- A word without a parenthesis takes none. -/
theorem mem_of_stripSpelling (hspells : SparesParenthesis spells) {word : List Char}
    (hword : '(' ∉ word) (h : stripSpelling spells word text = some rest)
    (hmember : .char '(' ∈ text) : .char '(' ∈ rest := by
  induction word generalizing text with
  | nil =>
    cases h
    exact hmember
  | cons letter word ih =>
    rw [List.mem_cons, not_or] at hword
    cases text with
    | nil => cases hmember
    | cons c text =>
      rw [stripSpelling] at h
      split at h
      · next hletter =>
        rcases List.mem_cons.1 hmember with hfirst | hmember
        · rw [← hfirst, hspells letter (Ne.symm hword.1)] at hletter
          cases hletter
        · exact ih hword.2 h hmember
      · cases h

/-- What is no parenthesis is taken off without one. -/
theorem mem_dropWhile {taken : CodePoint → Bool} (htaken : taken (.char '(') = false)
    (hmember : .char '(' ∈ text) : .char '(' ∈ text.dropWhile taken := by
  rw [← List.takeWhile_append_dropWhile (p := taken) (l := text), List.mem_append] at hmember
  rcases hmember with hbefore | hafter
  · have hkept := List.mem_takeWhile_imp hbefore
    rw [htaken] at hkept
    cases hkept
  · exact hafter

/-- A colon and the blanks around it take no parenthesis. -/
theorem mem_afterColon {blank : CodePoint → Bool} (hblank : blank (.char '(') = false)
    (h : afterColon? blank text = some rest) (hmember : .char '(' ∈ text) : .char '(' ∈ rest := by
  have hdropped := mem_dropWhile hblank hmember
  rw [afterColon?] at h
  split at h
  · next after hcolon =>
    cases h
    rw [hcolon] at hdropped
    exact mem_dropWhile hblank (List.mem_of_ne_of_mem (by decide) hdropped)
  · cases h

/-- The word for a comparison takes no parenthesis. -/
theorem mem_comparisonOf (hmember : .char '(' ∈ text) : .char '(' ∈ (comparisonOf text).2 := by
  rw [comparisonOf]
  split
  · next after h => exact mem_of_stripSpelling sparesParenthesis_ascii (by decide) h hmember
  · split
    · next after h => exact mem_of_stripSpelling sparesParenthesis_ascii (by decide) h hmember
    · exact hmember

/-- The first of some words takes no parenthesis. -/
theorem mem_firstWord {words : List String} {word : String} (hspells : SparesParenthesis spells)
    (hwords : ∀ word ∈ words, '(' ∉ word.toList)
    (h : firstWord? spells words text = some (word, rest)) (hmember : .char '(' ∈ text) :
    .char '(' ∈ rest := by
  obtain ⟨found, hfound, hstripped⟩ := List.exists_of_findSome?_eq_some h
  obtain ⟨after, hafter, hpair⟩ := Option.map_eq_some_iff.1 hstripped
  cases hpair
  exact mem_of_stripSpelling hspells (hwords _ hfound) hafter hmember

/-- Digits take no parenthesis. -/
theorem mem_spanDigits (hmember : .char '(' ∈ text) : .char '(' ∈ (spanDigits text).2 := by
  rw [spanDigits, List.span_eq_takeWhile_dropWhile]
  exact mem_dropWhile (by decide) hmember

/-- A sign takes no parenthesis. -/
theorem mem_stripSign (hmember : .char '(' ∈ text) : .char '(' ∈ (stripSign text).2 := by
  rw [stripSign.eq_def]
  split
  · exact List.mem_of_ne_of_mem (by decide) hmember
  · exact List.mem_of_ne_of_mem (by decide) hmember
  · exact hmember

/-- A number takes no parenthesis. -/
theorem mem_length {value : Float} (h : length? text = some (value, rest))
    (hmember : .char '(' ∈ text) : .char '(' ∈ rest := by
  have hwhole := mem_spanDigits (mem_stripSign hmember)
  simp only [length?] at h
  split at h
  · next after hpoint =>
    split at h
    · cases h
    · cases h
      rw [hpoint] at hwhole
      exact mem_spanDigits (List.mem_of_ne_of_mem (by decide) hwhole)
  · split at h
    · cases h
    · cases h
      exact hwhole

/-- No unit has a parenthesis. -/
theorem not_mem_of_isUnit (h : isUnit text = true) : .char '(' ∉ text := by
  intro hmember
  have hunits : ∀ unit ∈ ["px", "em", "rem"], '(' ∉ unit.toList := by decide
  rw [isUnit, Bool.or_eq_true] at h
  rcases h with hempty | hunit
  · rw [List.isEmpty_iff.1 hempty] at hmember
    cases hmember
  · obtain ⟨unit, hknown, hstripped⟩ := List.any_eq_true.1 hunit
    have hleft := mem_of_stripSpelling sparesParenthesis_ascii (hunits unit hknown)
      (beq_iff_eq.1 hstripped) hmember
    cases hleft

/-- A text that writes a feature has no opening parenthesis. -/
theorem not_mem_of_feature? {test : Feature} (h : feature? text = some test) :
    .char '(' ∉ text := by
  intro hmember
  rw [feature?, Option.or_eq_some_iff, Option.or_eq_some_iff] at h
  rcases h with h | ⟨-, h | ⟨-, h⟩⟩
  · have hwords : ∀ word ∈ ["width", "height"], '(' ∉ word.toList := by decide
    simp only [dimension?, Option.bind_eq_bind, Option.bind_eq_some_iff] at h
    obtain ⟨⟨name, afterName⟩, hname, afterColon, hcolon, ⟨value, afterValue⟩, hvalue, hunit⟩ := h
    have hleft := mem_length hvalue (mem_afterColon (by decide) hcolon
      (mem_firstWord sparesParenthesis_ascii hwords hname (mem_comparisonOf hmember)))
    split at hunit
    · next hread => exact not_mem_of_isUnit hread hleft
    · cases hunit
  · have hwords : ∀ word ∈ ["aspect-ratio"], '(' ∉ word.toList := by decide
    have hblank : isAsciiBlank (.char '(') = false := by decide
    simp only [aspectRatio?, Option.bind_eq_bind, Option.bind_eq_some_iff] at h
    obtain ⟨⟨name, afterName⟩, hname, afterColon, hcolon, hratio⟩ := h
    have hwidth := mem_dropWhile hblank
      (mem_spanDigits (mem_afterColon hblank hcolon
        (mem_firstWord sparesParenthesis_ascii hwords hname (mem_comparisonOf hmember))))
    split at hratio
    · next after hslash =>
      split at hratio
      · cases hratio
      · next hread =>
        rw [hslash] at hwidth
        have hheight := mem_spanDigits (mem_dropWhile hblank
          (List.mem_of_ne_of_mem (by decide) hwidth))
        simp only [Bool.or_eq_true, Bool.not_eq_true', not_or, Bool.not_eq_false] at hread
        rw [List.isEmpty_iff.1 hread.2] at hheight
        cases hheight
    · cases hratio
  · have hfeatures : ∀ feature ∈ keywordFeatures,
        '(' ∉ feature.1.toList ∧ ∀ word ∈ feature.2, '(' ∉ word.toList := by decide
    obtain ⟨feature, hfeature, hkeyword⟩ := List.exists_of_findSome?_eq_some h
    obtain ⟨hname, hwords⟩ := hfeatures feature hfeature
    simp only [keyword?, Option.bind_eq_bind, Option.bind_eq_some_iff] at hkeyword
    obtain ⟨afterName, hafterName, value, hvalue, hkeyword⟩ := hkeyword
    have hleft := mem_afterColon (by decide) hvalue
      (mem_of_stripSpelling sparesParenthesis_wide hname hafterName hmember)
    split at hkeyword
    · next hknown =>
      obtain ⟨word, hword, hstripped⟩ := List.any_eq_true.1 hknown
      have hnone := mem_of_stripSpelling sparesParenthesis_wide (hwords word hword)
        (beq_iff_eq.1 hstripped) hleft
      cases hnone
    · cases hkeyword

end Breakpoint.Query
