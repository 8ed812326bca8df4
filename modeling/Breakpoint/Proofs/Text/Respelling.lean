import Breakpoint.Proofs.Query.Vocabulary

/-!
# Other spellings of a text

A change of code points that readers of blanks, marks, digits and words do not see: blanks of ASCII
text stay such blanks, and any other code point changes its case at most. Such a change may be made
before a text is trimmed, and before blanks or a word are taken off it, or afterwards.
-/

namespace Breakpoint.Text

/-- A change of code points that keeps the blanks of ASCII text, and everything else up to case. -/
structure IsRespelling (respell : CodePoint → CodePoint) : Prop where
  blank : ∀ c, isAsciiBlank (respell c) = isAsciiBlank c
  letter : ∀ c, isAsciiBlank c = false → lowerPlain (respell c) = lowerPlain c

/-! ## Lower case, code point by code point -/

variable {c mark : CodePoint} {letter : Char}

/-- The lower case of a capital letter is a small letter, and any other code point is its own. -/
theorem lowerPlain_eq_or (c : CodePoint) :
    lowerPlain c = c ∨ (65 ≤ c.val ∧ c.val ≤ 90) ∧ (lowerPlain c).val = c.val + 32 := by
  by_cases hcapital : 65 ≤ c.val ∧ c.val ≤ 90
  · right
    refine ⟨hcapital, ?_⟩
    cases c with
    | surrogate index =>
      have hval : 0xD800 + index.val ≤ 90 := hcapital.2
      omega
    | char c =>
      have hascii : c.toNat < 0x80 := Nat.lt_of_le_of_lt hcapital.2 (by decide)
      have hrange : 'A' ≤ c ∧ c ≤ 'Z' := hcapital
      rw [lowerPlain, if_pos hascii, lowerAscii, if_pos hrange]
      show (Char.ofNat (c.toNat + 32)).toNat = c.toNat + 32
      have hvalid : (c.toNat + 32).isValidChar := .inl (by omega)
      rw [Char.ofNat, dif_pos hvalid]
      rfl
  · exact .inl (lowerPlain_of_not_capital hcapital)

/-- Only a mark itself has it as its lower case. -/
theorem lowerPlain_eq_iff (hmark : ¬ IsLetter mark) : lowerPlain c = mark ↔ c = mark := by
  rw [IsLetter] at hmark
  rcases lowerPlain_eq_or c with hsame | ⟨hcapital, hval⟩
  · rw [hsame]
  · constructor
    · rintro rfl
      omega
    · rintro rfl
      omega

/-- A code point spells a letter in ASCII if its lower case is the letter. -/
theorem isAsciiSpelling_eq (hletter : IsKeyLetter letter) (c : CodePoint) :
    isAsciiSpelling letter c = decide (lowerPlain c = .char letter) := by
  rw [Bool.eq_iff_iff, decide_eq_true_eq]
  rcases hletter with hlower | rfl
  · constructor
    · exact lowerPlain_of_isAsciiSpelling hlower
    · intro hsame
      rw [isAsciiSpelling, Bool.or_eq_true, Bool.and_eq_true, beq_iff_eq, beq_iff_eq]
      rcases lowerPlain_eq_or c with hitself | ⟨hcapital, hval⟩
      · exact .inl (hitself.symm.trans hsame)
      · rw [hsame] at hval
        exact .inr ⟨hlower, hval.symm⟩
  · rw [lowerPlain_eq_iff (by decide)]
    simp [isAsciiSpelling]

/-- No letter of a keyword is a blank. -/
theorem isAsciiBlank_of_isKeyLetter (hletter : IsKeyLetter letter) :
    isAsciiBlank (.char letter) = false := by
  rcases hletter with hlower | rfl
  · have hrange := toNat_of_isLower hlower
    have hval : (CodePoint.char letter).val = letter.toNat := rfl
    rw [Bool.eq_false_iff, isAsciiBlank, hval]
    simp only [ne_eq, Bool.or_eq_true, beq_iff_eq, Bool.and_eq_true, decide_eq_true_eq]
    omega
  · rfl

/-! ## What a respelling keeps -/

namespace IsRespelling

variable {respell : CodePoint → CodePoint}

/-- A code point is what it was if it is neither a letter nor a blank, before or afterwards. -/
theorem eq_iff (h : IsRespelling respell) (hmark : ¬ IsLetter mark)
    (hblank : isAsciiBlank mark = false) : respell c = mark ↔ c = mark := by
  cases hc : isAsciiBlank c with
  | true =>
    have hkept : isAsciiBlank (respell c) = true := (h.blank c).trans hc
    constructor
    · rintro rfl
      rw [hblank] at hkept
      cases hkept
    · rintro rfl
      rw [hblank] at hc
      cases hc
  | false => rw [← lowerPlain_eq_iff hmark, h.letter c hc, lowerPlain_eq_iff hmark]

/-- A mark stays what it is, and nothing else becomes one. -/
theorem eq_or_ne (h : IsRespelling respell) (hmark : ¬ IsLetter mark)
    (hblank : isAsciiBlank mark = false) (c : CodePoint) :
    c = mark ∧ respell c = mark ∨ c ≠ mark ∧ respell c ≠ mark := by
  by_cases hc : c = mark
  · exact .inl ⟨hc, (h.eq_iff hmark hblank).2 hc⟩
  · exact .inr ⟨hc, fun hsame => hc ((h.eq_iff hmark hblank).1 hsame)⟩

/-- A test that fails of letters and blanks is passed as before, and what passes it is kept. -/
theorem keeps (h : IsRespelling respell) {test : CodePoint → Bool}
    (htest : ∀ c, test c = true → ¬ IsLetter c ∧ isAsciiBlank c = false) (c : CodePoint) :
    test (respell c) = test c ∧ (test c = true → respell c = c) := by
  have hself : test c = true → respell c = c := by
    intro hc
    obtain ⟨hmark, hblank⟩ := htest c hc
    exact (h.eq_iff hmark hblank).2 rfl
  refine ⟨?_, hself⟩
  rw [Bool.eq_iff_iff]
  constructor
  · intro hc
    obtain ⟨hmark, hblank⟩ := htest _ hc
    rwa [← (h.eq_iff hmark hblank).1 rfl] at hc
  · intro hc
    rwa [hself hc]

/-- A mark that is neither a letter nor a blank is respelled as itself, and nothing else is. -/
theorem beq_mark (h : IsRespelling respell) (hmark : ¬ IsLetter mark)
    (hblank : isAsciiBlank mark = false) (c : CodePoint) : (respell c == mark) = (c == mark) := by
  rw [Bool.eq_iff_iff, beq_iff_eq, beq_iff_eq]
  exact h.eq_iff hmark hblank

/-- Blanks are respelled as blanks, and nothing else is. -/
theorem isBlank (h : IsRespelling respell) (c : CodePoint) :
    Text.isBlank (respell c) = Text.isBlank c := by
  cases hc : isAsciiBlank c with
  | true =>
    rw [isBlank_of_isAsciiBlank hc, isBlank_of_isAsciiBlank ((h.blank c).trans hc)]
  | false =>
    have hkept : isAsciiBlank (respell c) = false := (h.blank c).trans hc
    have hother : ∀ c, (Text.isBlank c && !isAsciiBlank c) = true →
        ¬ IsLetter c ∧ isAsciiBlank c = false := by
      intro c hc
      rw [Bool.and_eq_true, Bool.not_eq_true'] at hc
      refine ⟨fun hletter => ?_, hc.2⟩
      rw [isBlank_of_isLetter hletter] at hc
      cases hc.1
    have hwide := (h.keeps hother c).1
    simpa only [hc, hkept, Bool.not_false, Bool.and_true] using hwide

/-- The narrow spelling of a letter does not see the respelling. -/
theorem isAsciiSpelling (h : IsRespelling respell) (hletter : IsKeyLetter letter) (c : CodePoint) :
    Text.isAsciiSpelling letter (respell c) = Text.isAsciiSpelling letter c := by
  rw [isAsciiSpelling_eq hletter, isAsciiSpelling_eq hletter]
  cases hc : isAsciiBlank c with
  | false => rw [h.letter c hc]
  | true =>
    have hnone : ∀ c, isAsciiBlank c = true → lowerPlain c ≠ .char letter := by
      intro c hc hsame
      rw [lowerPlain_of_isBlank (isBlank_of_isAsciiBlank hc)] at hsame
      rw [hsame, isAsciiBlank_of_isKeyLetter hletter] at hc
      cases hc
    rw [decide_eq_false (hnone c hc), decide_eq_false (hnone _ ((h.blank c).trans hc))]

/-- The wide spelling of a letter does not see the respelling. -/
theorem isWideSpelling (h : IsRespelling respell) (hletter : IsKeyLetter letter) (c : CodePoint) :
    Text.isWideSpelling letter (respell c) = Text.isWideSpelling letter c := by
  have hwide : ∀ mark ∈ [CodePoint.char 'İ', .char 'ı', .char 'ſ', .char '\u212a'],
      (respell c == mark) = (c == mark) := by
    intro mark hmark
    have hother : ∀ mark ∈ [CodePoint.char 'İ', .char 'ı', .char 'ſ', .char '\u212a'],
        ¬ IsLetter mark ∧ isAsciiBlank mark = false := by decide
    exact h.beq_mark (hother mark hmark).1 (hother mark hmark).2 c
  simp only [List.forall_mem_cons] at hwide
  obtain ⟨hdotted, hdotless, hlong, hkelvin, -⟩ := hwide
  rw [Text.isWideSpelling, Text.isWideSpelling, h.isAsciiSpelling hletter, hdotted, hdotless, hlong,
    hkelvin]

/-! ## Blanks and words -/

/-- What a test does not tell apart is dropped alike. -/
theorem dropWhile_map {test : CodePoint → Bool} (htest : ∀ c, test (respell c) = test c)
    (text : Text) : (text.map respell).dropWhile test = (text.dropWhile test).map respell := by
  have hsame : test ∘ respell = test := funext htest
  rw [List.dropWhile_map, hsame]

/-- A respelled text is trimmed to the respelling of what is left. -/
theorem trim_map (h : IsRespelling respell) (text : Text) :
    trim (text.map respell) = (trim text).map respell := by
  rw [trim, trim, dropWhile_map h.isBlank, dropTrailing, dropTrailing, ← List.map_reverse,
    dropWhile_map h.isBlank, List.map_reverse]

/-- A way to spell words that does not see the respelling. -/
def Keeps (respell : CodePoint → CodePoint) (spells : Char → CodePoint → Bool) : Prop :=
  ∀ letter, IsKeyLetter letter → ∀ c, spells letter (respell c) = spells letter c

/-- Narrow spellings do not see the respelling. -/
theorem keeps_ascii (h : IsRespelling respell) : Keeps respell Text.isAsciiSpelling :=
  fun _ hletter c => h.isAsciiSpelling hletter c

/-- Wide spellings do not see the respelling. -/
theorem keeps_wide (h : IsRespelling respell) : Keeps respell Text.isWideSpelling :=
  fun _ hletter c => h.isWideSpelling hletter c

/-- A word is taken off a text before or after a respelling. -/
theorem stripSpelling_map {spells : Char → CodePoint → Bool} (hkeeps : Keeps respell spells)
    {word : List Char} (hword : ∀ letter ∈ word, IsKeyLetter letter) (text : Text) :
    stripSpelling spells word (text.map respell) =
      (stripSpelling spells word text).map (·.map respell) := by
  induction word generalizing text with
  | nil => rfl
  | cons letter word ih =>
    rw [List.forall_mem_cons] at hword
    cases text with
    | nil => rfl
    | cons c text =>
      rw [List.map_cons, stripSpelling, stripSpelling, hkeeps letter hword.1, ih hword.2]
      split <;> rfl

end IsRespelling

end Breakpoint.Text
