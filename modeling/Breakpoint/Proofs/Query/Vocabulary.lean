import Breakpoint.Proofs.Query.Pieces

/-!
# The features that come out of reading

A query that is read compares widths, heights and aspect ratios with numbers, and all other
features with one of their keywords, whatever case and blanks it was written with. One thing slips
through: keywords are matched in the wide sense of letters, and the lower case of three of the
wide spellings is no ASCII text. So a keyword may come out with a dotted or dotless I or a long s
in it, and this is the only way in which it is not one of the keywords of its feature.
-/

namespace Breakpoint

namespace Text

/-! ## The lower case of a spelling -/

/-- The spellings of letters outside ASCII whose lower case is outside ASCII, too. -/
def strayLetters : List CodePoint := [.char 'İ', .char 'ı', .char 'ſ']

/-- The lower case of the stray spellings of a letter. -/
def strayForms (letter : Char) : List Text :=
  if letter = 'i' then [[.char 'ı'], [.char 'i', .char '\u0307']]
  else if letter = 's' then [[.char 'ſ']]
  else []

/-- The text is the lower case of a spelling of a word: each letter is the letter itself or a
stray form of it. -/
inductive Renders : List Char → Text → Prop where
  | nil : Renders [] []
  | itself (letter : Char) {word : List Char} {text : Text} (hrest : Renders word text) :
      Renders (letter :: word) (.char letter :: text)
  | stray {letter : Char} {form : Text} {word : List Char} {text : Text}
      (hform : form ∈ strayForms letter) (hrest : Renders word text) :
      Renders (letter :: word) (form ++ text)

/-- A small letter or a hyphen, of which keywords are made. -/
def IsKeyLetter (letter : Char) : Prop := letter.isLower = true ∨ letter = '-'

instance : DecidablePred IsKeyLetter := fun letter =>
  inferInstanceAs (Decidable (letter.isLower = true ∨ letter = '-'))

variable {letter : Char} {c : CodePoint} {word : List Char} {text : Text}

/-- Words of small letters and hyphens, by going through them. -/
theorem isKeyLetter_of_all {words : List String}
    (h : (words.all fun word => word.toList.all fun letter => letter.isLower || letter == '-') =
      true) : ∀ word ∈ words, ∀ letter ∈ word.toList, IsKeyLetter letter := by
  intro word hword letter hletter
  have hkey := List.all_eq_true.1 (List.all_eq_true.1 h word hword) letter hletter
  simpa [IsKeyLetter] using hkey

/-- The letters of keywords are ASCII. -/
theorem toNat_of_isKeyLetter (h : IsKeyLetter letter) : letter.toNat < 0x80 := by
  rcases h with hlower | rfl
  · have hrange := toNat_of_isLower hlower
    omega
  · decide

/-- The lower case of an ASCII spelling is the letter. -/
theorem lowerAt_of_isAsciiSpelling (hletter : IsKeyLetter letter)
    (h : isAsciiSpelling letter c = true) (before after : Text) :
    lowerAt before c after = [.char letter] := by
  rcases hletter with hlower | rfl
  · rw [lowerAt_of_isPlain (isPlain_of_isLetter (isLetter_of_isAsciiSpelling hlower h)),
      lowerPlain_of_isAsciiSpelling hlower h]
  · rcases val_of_isAsciiSpelling h with rfl | ⟨hlower, -⟩
    · rfl
    · cases hlower

/-- The lower case of a wide spelling is the letter, unless the spelling is a stray one. -/
theorem lowerAt_of_isWideSpelling (hletter : IsKeyLetter letter)
    (h : isWideSpelling letter c = true) (before after : Text) :
    lowerAt before c after = [.char letter] ∨
      c ∈ strayLetters ∧ lowerAt before c after ∈ strayForms letter := by
  have hdotted : lowerAt before (.char 'İ') after = [.char 'i', .char '\u0307'] := rfl
  have hdotless : lowerAt before (.char 'ı') after = [.char 'ı'] := rfl
  have hlong : lowerAt before (.char 'ſ') after = [.char 'ſ'] := rfl
  have hkelvin : lowerAt before (.char '\u212a') after = [.char 'k'] := rfl
  simp only [isWideSpelling, Bool.or_eq_true, Bool.and_eq_true, beq_iff_eq] at h
  rcases h with ((hascii | ⟨rfl, rfl | rfl⟩) | ⟨rfl, rfl⟩) | ⟨rfl, rfl⟩
  · exact .inl (lowerAt_of_isAsciiSpelling hletter hascii before after)
  · exact .inr ⟨by decide, by rw [hdotted]; decide⟩
  · exact .inr ⟨by decide, by rw [hdotless]; decide⟩
  · exact .inr ⟨by decide, by rw [hlong]; decide⟩
  · exact .inl hkelvin

/-- The lower case of a spelling of a word renders it. -/
theorem renders_lowerAfter (hword : ∀ letter ∈ word, IsKeyLetter letter)
    (h : List.Forall₂ (fun letter c => isWideSpelling letter c = true) word text) (before : Text) :
    Renders word (lowerAfter before text) := by
  induction h generalizing before with
  | nil => exact .nil
  | @cons letter c word text hletter _ ih =>
    rw [List.forall_mem_cons] at hword
    rw [lowerAfter]
    rcases lowerAt_of_isWideSpelling hword.1 hletter before text with hitself | ⟨-, hstray⟩
    · rw [hitself]
      exact .itself letter (ih hword.2 _)
    · exact .stray hstray (ih hword.2 _)

/-- Without stray spellings the lower case of a spelling of a word is the word. -/
theorem lowerAfter_of_isWideSpelling (hword : ∀ letter ∈ word, IsKeyLetter letter)
    (h : List.Forall₂ (fun letter c => isWideSpelling letter c = true) word text)
    (hstray : ∀ c ∈ text, c ∉ strayLetters) (before : Text) :
    lowerAfter before text = word.map .char := by
  induction h generalizing before with
  | nil => rfl
  | @cons letter c word text hletter _ ih =>
    rw [List.forall_mem_cons] at hword hstray
    rw [lowerAfter, ih hword.2 hstray.2]
    rcases lowerAt_of_isWideSpelling hword.1 hletter before text with hitself | ⟨hother, -⟩
    · rw [hitself]
      rfl
    · exact absurd hother hstray.1

/-- A stray form leaves ASCII. -/
theorem exists_of_mem_strayForms {form : Text} (h : form ∈ strayForms letter) :
    ∃ c ∈ form, ¬ c.val < 0x80 := by
  rw [strayForms] at h
  split at h
  · rcases List.mem_cons.1 h with rfl | hdotted
    · exact ⟨.char 'ı', by decide, by decide⟩
    · cases List.mem_singleton.1 hdotted
      exact ⟨.char '\u0307', by decide, by decide⟩
  · split at h
    · cases List.mem_singleton.1 h
      exact ⟨.char 'ſ', by decide, by decide⟩
    · cases h

/-- What renders a word is the word exactly if it is ASCII text. -/
theorem Renders.eq_iff (h : Renders word text) (hword : ∀ letter ∈ word, IsKeyLetter letter) :
    text = word.map .char ↔ ∀ c ∈ text, c.val < 0x80 := by
  constructor
  · rintro rfl c hc
    obtain ⟨letter, hletter, rfl⟩ := List.mem_map.1 hc
    exact toNat_of_isKeyLetter (hword letter hletter)
  · intro hascii
    induction h with
    | nil => rfl
    | itself letter _ ih =>
      rw [List.forall_mem_cons] at hword hascii
      rw [List.map_cons, ← ih hword.2 hascii.2]
    | stray hform _ ih =>
      obtain ⟨c, hc, hwide⟩ := exists_of_mem_strayForms hform
      exact absurd (hascii c (List.mem_append_left _ hc)) hwide

/-- What renders a word whose letters have no stray forms is the word. -/
theorem Renders.eq_of_forall (h : Renders word text)
    (hword : ∀ letter ∈ word, strayForms letter = []) : text = word.map .char := by
  induction h with
  | nil => rfl
  | itself letter _ ih =>
    rw [List.forall_mem_cons] at hword
    rw [List.map_cons, ih hword.2]
  | stray hform _ _ =>
    rw [List.forall_mem_cons] at hword
    rw [hword.1] at hform
    cases hform

/-- A word renders itself. -/
theorem renders_self (word : List Char) : Renders word (word.map .char) := by
  induction word with
  | nil => exact .nil
  | cons letter word ih => exact .itself letter ih

/-- A text from which a spelling of a word is split off and nothing is left spells the word. -/
theorem forall₂_of_stripSpelling {spells : Char → CodePoint → Bool}
    (h : stripSpelling spells word text = some []) :
    List.Forall₂ (fun letter c => spells letter c = true) word text := by
  induction word generalizing text with
  | nil =>
    cases h
    exact .nil
  | cons letter word ih =>
    cases text with
    | nil => cases h
    | cons c text =>
      rw [stripSpelling] at h
      split at h
      · next hletter => exact .cons hletter (ih h)
      · cases h

end Text

open Breakpoint.Text

/-! ## Features -/

namespace Feature

/-- A width, a height or an aspect ratio that is compared with a number. -/
structure IsMeasure (test : Feature) : Prop where
  name : test.name ∈ (["width", "height", "aspect-ratio"] : List Text)
  comparison : test.comparison ∈ [.atLeast, .atMost, .exactly]
  operand : ∃ value, test.operand = .number value

/-- A feature that is compared with one of its keywords. -/
def IsKeyword (test : Feature) : Prop :=
  ∃ feature ∈ keywordFeatures, ∃ word ∈ feature.2,
    test = ⟨Text.ofString feature.1, .exactly, .keyword (Text.ofString word)⟩

/-- A feature that is compared with what renders one of its keywords. -/
def IsRendered (test : Feature) : Prop :=
  ∃ feature ∈ keywordFeatures, ∃ word ∈ feature.2, ∃ value, Renders word.toList value ∧
    test = ⟨Text.ofString feature.1, .exactly, .keyword value⟩

/-- A feature as queries are to have it. -/
def IsProper (test : Feature) : Prop := test.IsMeasure ∨ test.IsKeyword

end Feature

/-- An operand that is a number or ASCII text. -/
def Operand.IsAscii : Operand → Prop
  | .number _ => True
  | .keyword text => ∀ c ∈ text, c.val < 0x80

/-- Keywords are made of small letters and hyphens. -/
theorem isKeyLetter_of_mem_keywordFeatures :
    ∀ feature ∈ keywordFeatures, ∀ word ∈ feature.2, ∀ letter ∈ word.toList, IsKeyLetter letter := by
  have hall : ∀ feature ∈ keywordFeatures, (feature.2.all fun word =>
      word.toList.all fun letter => letter.isLower || letter == '-') = true := by decide
  exact fun feature hfeature => isKeyLetter_of_all (hall feature hfeature)

/-- A rendered keyword is a keyword exactly if it is ASCII text. -/
theorem Feature.IsRendered.isKeyword_iff {test : Feature} (h : test.IsRendered) :
    test.IsKeyword ↔ test.operand.IsAscii := by
  obtain ⟨feature, hfeature, word, hword, value, hrenders, rfl⟩ := h
  have heq := hrenders.eq_iff (isKeyLetter_of_mem_keywordFeatures feature hfeature word hword)
  constructor
  · rintro ⟨other, hother, listed, hlisted, hsame⟩
    have hvalue : Operand.keyword value = .keyword (Text.ofString listed) :=
      congrArg Feature.operand hsame
    cases hvalue
    exact ((renders_self _).eq_iff
      (isKeyLetter_of_mem_keywordFeatures other hother listed hlisted)).1 rfl
  · intro hascii
    exact ⟨feature, hfeature, word, hword, by rw [heq.2 hascii]; rfl⟩

/-- What is read is proper exactly if its operand is ASCII. -/
theorem Feature.isProper_iff {test : Feature} (h : test.IsMeasure ∨ test.IsRendered) :
    test.IsProper ↔ test.operand.IsAscii := by
  rcases h with hmeasure | hrendered
  · obtain ⟨value, hvalue⟩ := hmeasure.operand
    rw [hvalue]
    exact iff_of_true (.inl hmeasure) trivial
  · constructor
    · rintro (hmeasure | hkeyword)
      · obtain ⟨value, hvalue⟩ := hmeasure.operand
        rw [hvalue]
        trivial
      · exact hrendered.isKeyword_iff.1 hkeyword
    · exact fun hascii => .inr (hrendered.isKeyword_iff.2 hascii)

namespace Query

/-! ## Reading -/

/-- A feature that may come from a text: a measure, or a rendered keyword, and this is a keyword
unless there are stray letters in the text. -/
structure ComesFrom (text : Text) (test : Feature) : Prop where
  read : test.IsMeasure ∨ test.IsRendered
  proper : (∀ c ∈ text, c ∉ strayLetters) → test.IsProper

variable {text part : Text} {test : Feature} {tree : Query}

/-- What comes from a part of a text comes from the text. -/
theorem ComesFrom.mono (h : ComesFrom part test) (hpart : part ⊆ text) : ComesFrom text test :=
  ⟨h.read, fun hstray => h.proper fun c hc => hstray c (hpart hc)⟩

/-- A measure may come from any text. -/
theorem ComesFrom.of_isMeasure (h : test.IsMeasure) : ComesFrom text test :=
  ⟨.inl h, fun _ => .inl h⟩

/-- The comparison before a name is one that has a rule. -/
theorem comparisonOf_mem (text : Text) :
    (comparisonOf text).1 ∈ [.atLeast, .atMost, .exactly] := by
  rw [comparisonOf]
  split
  · simp
  · split <;> simp

/-- The first word of a text is one of those looked for. -/
theorem mem_of_firstWord? {spells : Char → CodePoint → Bool} {words : List String} {word : String}
    {rest : Text} (h : firstWord? spells words text = some (word, rest)) : word ∈ words := by
  obtain ⟨found, hfound, hstripped⟩ := List.exists_of_findSome?_eq_some h
  obtain ⟨after, -, hpair⟩ := Option.map_eq_some_iff.1 hstripped
  cases hpair
  exact hfound

/-- A width or a height is a measure. -/
theorem isMeasure_of_dimension? (h : dimension? text = some test) : test.IsMeasure := by
  have hnames : ∀ name ∈ ["width", "height"],
      Text.ofString name ∈ (["width", "height", "aspect-ratio"] : List Text) := by decide
  simp only [dimension?, Option.bind_eq_bind, Option.bind_eq_some_iff] at h
  obtain ⟨⟨name, afterName⟩, hname, afterColon, -, ⟨value, afterValue⟩, -, h⟩ := h
  split at h
  · cases h
    exact ⟨hnames name (mem_of_firstWord? hname), comparisonOf_mem text, value, rfl⟩
  · cases h

/-- An aspect ratio is a measure. -/
theorem isMeasure_of_aspectRatio? (h : aspectRatio? text = some test) : test.IsMeasure := by
  have hnames : ∀ name ∈ ["aspect-ratio"],
      Text.ofString name ∈ (["width", "height", "aspect-ratio"] : List Text) := by decide
  simp only [aspectRatio?, Option.bind_eq_bind, Option.bind_eq_some_iff] at h
  obtain ⟨⟨name, afterName⟩, hname, afterColon, -, h⟩ := h
  split at h
  · split at h
    · cases h
    · cases h
      exact ⟨hnames name (mem_of_firstWord? hname), comparisonOf_mem text, _, rfl⟩
  · cases h

/-- A feature with keywords that a text writes comes from the text. -/
theorem comesFrom_of_keyword? {feature : String × List String} (hfeature : feature ∈ keywordFeatures)
    (h : keyword? feature text = some test) : ComesFrom text test := by
  simp only [keyword?, Option.bind_eq_bind, Option.bind_eq_some_iff] at h
  obtain ⟨afterName, hname, value, hvalue, h⟩ := h
  split at h
  · next hknown =>
    cases h
    obtain ⟨word, hword, hstripped⟩ := List.any_eq_true.1 hknown
    have hletters := isKeyLetter_of_mem_keywordFeatures feature hfeature word hword
    have hspells := forall₂_of_stripSpelling (beq_iff_eq.1 hstripped)
    refine ⟨.inr ⟨feature, hfeature, word, hword, _, renders_lowerAfter hletters hspells [], rfl⟩, ?_⟩
    intro hstray
    have hkept : value ⊆ text :=
      ((afterColon?_isSuffix hvalue).trans (stripSpelling_isSuffix hname)).subset
    have hlower := lowerAfter_of_isWideSpelling hletters hspells (fun c hc => hstray c (hkept hc)) []
    exact .inr ⟨feature, hfeature, word, hword, by rw [lower, hlower]; rfl⟩
  · cases h

/-- The feature that a text writes comes from the text. -/
theorem comesFrom_of_feature? (h : feature? text = some test) : ComesFrom text test := by
  rw [feature?, Option.or_eq_some_iff, Option.or_eq_some_iff] at h
  rcases h with hdimension | ⟨-, hratio | ⟨-, hkeyword⟩⟩
  · exact .of_isMeasure (isMeasure_of_dimension? hdimension)
  · exact .of_isMeasure (isMeasure_of_aspectRatio? hratio)
  · obtain ⟨feature, hfeature, hfound⟩ := List.exists_of_findSome?_eq_some hkeyword
    exact comesFrom_of_keyword? hfeature hfound

/-- The features of a text that is read come from the text. -/
theorem comesFrom_of_parse (h : parse text = .ok tree) :
    ∀ test ∈ tree.features, ComesFrom text test := by
  intro test htest
  obtain ⟨piece, hpiece, hwrites⟩ := writesFeature_of_parse h test htest
  exact (comesFrom_of_feature? hwrites).mono fun c hc => hpiece.subset hc

/-- Each feature of a query that is read is a width, a height or an aspect ratio compared with a
number, or one of the features with keywords compared with what renders one of its keywords. It is
proper exactly if its operand is ASCII, and it is if the query holds no stray letter. -/
theorem features_of_readsAs {query : Text} (hread : ReadsAs query (some tree))
    (hmember : test ∈ tree.features) :
    (test.IsMeasure ∨ test.IsRendered) ∧ (test.IsProper ↔ test.operand.IsAscii) ∧
      ((∀ c ∈ query, c ∉ strayLetters) → test.IsProper) := by
  have hparse := parse?_eq_some_iff.1 (readsAs_iff.1 hread).symm
  have hcomes := comesFrom_of_parse hparse test hmember
  exact ⟨hcomes.read, Feature.isProper_iff hcomes.read, hcomes.proper⟩

/-- A keyword with a Kelvin sign is a keyword, and one with a long s is none. -/
theorem coarse_pointer_rendered :
    let dark : Feature := ⟨"prefers-color-scheme", .exactly, .keyword "dark"⟩
    let coarse : Feature := ⟨"pointer", .exactly, .keyword "coarſe"⟩
    (dark.IsMeasure ∨ dark.IsRendered) ∧ dark.IsProper ∧
      (coarse.IsMeasure ∨ coarse.IsRendered) ∧ ¬ coarse.IsProper := by
  intro dark coarse
  have hread : ReadsAs "not (PREFERS-COLOR-SCHEME: Dar\u212a) and (pointer: coarſe)"
      (some (.conj (.neg (.feature dark)) (.feature coarse))) := readsAs_iff.2 (by decide +kernel)
  have hmembers : dark ∈ (Query.conj (.neg (.feature dark)) (.feature coarse)).features ∧
      coarse ∈ (Query.conj (.neg (.feature dark)) (.feature coarse)).features := by
    simp [features]
  obtain ⟨hdark, hproper, -⟩ := features_of_readsAs hread hmembers.1
  obtain ⟨hcoarse, himproper, -⟩ := features_of_readsAs hread hmembers.2
  refine ⟨hdark, hproper.2 ?_, hcoarse, fun hkeyword => ?_⟩
  · show ∀ c ∈ Text.ofString "dark", c.val < 0x80
    decide
  · have hascii : ∀ c ∈ Text.ofString "coarſe", c.val < 0x80 := himproper.1 hkeyword
    exact absurd hascii (by decide)

/-- A query that is read may have a feature that is not proper. -/
theorem long_s_read_in_keyword :
    ∃ tree test, ReadsAs "(pointer: coarſe)" (some tree) ∧ test ∈ tree.features ∧
      ¬ test.IsProper := by
  have hread : ReadsAs "(pointer: coarſe)"
      (some (.feature ⟨"pointer", .exactly, .keyword "coarſe"⟩)) := readsAs_iff.2 (by decide +kernel)
  refine ⟨_, _, hread, List.mem_cons_self, ?_⟩
  rintro (hmeasure | ⟨feature, hfeature, word, hword, hsame⟩)
  · obtain ⟨value, hvalue⟩ := hmeasure.operand
    cases hvalue
  · have hvalue : Text.ofString "coarſe" = Text.ofString word :=
      Operand.keyword.inj (congrArg Feature.operand hsame)
    have hnone : ∀ feature ∈ keywordFeatures, ∀ word ∈ feature.2,
        Text.ofString "coarſe" ≠ Text.ofString word := by decide
    exact hnone feature hfeature word hword hvalue

end Query

end Breakpoint
