import Breakpoint.Proofs.Text.Respelling

/-!
# Reading a text in another spelling

The readers of a query do not see a respelling: what they take off the front of a text is a
respelling of what they took off before, and so is what they leave. A feature is the same in every
spelling, and commas are found at the same places.
-/

namespace Breakpoint.Query

open Breakpoint.Text Breakpoint.Decimal

variable {respell : CodePoint → CodePoint}

/-! ## The text of a feature -/

/-- The colon of a feature is found in a respelled text where it was. -/
theorem afterColon?_map (h : IsRespelling respell) {blank : CodePoint → Bool}
    (hblank : ∀ c, blank (respell c) = blank c) (text : Text) :
    afterColon? blank (text.map respell) = (afterColon? blank text).map (·.map respell) := by
  rw [afterColon?, afterColon?, IsRespelling.dropWhile_map hblank]
  cases text.dropWhile blank with
  | nil => rfl
  | cons c rest =>
    have hcolon : ¬ IsLetter (.char ':') := by decide
    rcases h.eq_or_ne hcolon rfl c with ⟨rfl, hsame⟩ | ⟨hc, hkept⟩
    · rw [List.map_cons, hsame]
      simp only [Option.map_some, IsRespelling.dropWhile_map hblank]
    · simp [hc, hkept]

/-- A respelled name says the same comparison. -/
theorem comparisonOf_map (h : IsRespelling respell) (text : Text) :
    comparisonOf (text.map respell) =
      ((comparisonOf text).1, (comparisonOf text).2.map respell) := by
  have hsigns : ∀ word ∈ ["min-", "max-"], ∀ letter ∈ word.toList, IsKeyLetter letter :=
    isKeyLetter_of_all (by decide)
  have hstrip := fun word hword =>
    IsRespelling.stripSpelling_map h.keeps_ascii (hsigns word hword) text
  rw [comparisonOf, comparisonOf, hstrip "min-" (by decide), hstrip "max-" (by decide)]
  cases stripSpelling isAsciiSpelling "min-".toList text with
  | some rest => rfl
  | none =>
    cases stripSpelling isAsciiSpelling "max-".toList text with
    | some rest => rfl
    | none => rfl

/-- A respelled text begins with the same one of some words. -/
theorem firstWord?_map {spells : Char → CodePoint → Bool}
    (hkeeps : IsRespelling.Keeps respell spells)
    {words : List String} (hwords : ∀ word ∈ words, ∀ letter ∈ word.toList, IsKeyLetter letter)
    (text : Text) :
    firstWord? spells words (text.map respell) =
      (firstWord? spells words text).map fun found => (found.1, found.2.map respell) := by
  induction words with
  | nil => rfl
  | cons word words ih =>
    rw [List.forall_mem_cons] at hwords
    have hrest := ih hwords.2
    rw [firstWord?] at hrest ⊢
    rw [List.findSome?_cons, IsRespelling.stripSpelling_map hkeeps hwords.1, hrest, firstWord?,
      firstWord?, List.findSome?_cons]
    cases stripSpelling spells word.toList text with
    | some rest => rfl
    | none => rfl

/-- The digits at the front of a respelled text are the same. -/
theorem spanDigits_map (h : IsRespelling respell) (text : Text) :
    spanDigits (text.map respell) = ((spanDigits text).1, (spanDigits text).2.map respell) := by
  have hdigit : ∀ c, isAsciiDigit c = true → ¬ IsLetter c ∧ isAsciiBlank c = false := by
    intro c hc
    simp only [isAsciiDigit, Bool.and_eq_true, decide_eq_true_eq] at hc
    rw [IsLetter, Bool.eq_false_iff, isAsciiBlank]
    simp only [ne_eq, Bool.or_eq_true, beq_iff_eq, Bool.and_eq_true, decide_eq_true_eq]
    omega
  have hkeeps := h.keeps hdigit
  have hsame : isAsciiDigit ∘ respell = isAsciiDigit := funext fun c => (hkeeps c).1
  have hkept : (text.takeWhile isAsciiDigit).map respell = text.takeWhile isAsciiDigit := by
    rw [List.map_congr_left fun c hc => (hkeeps c).2 (List.mem_takeWhile_imp hc), List.map_id']
  rw [spanDigits, spanDigits, List.span_eq_takeWhile_dropWhile, List.span_eq_takeWhile_dropWhile,
    List.takeWhile_map, List.dropWhile_map, hsame, hkept]

/-- The sign of a respelled number is the same. -/
theorem stripSign_map (h : IsRespelling respell) (text : Text) :
    stripSign (text.map respell) = ((stripSign text).1, (stripSign text).2.map respell) := by
  have hminus : ¬ IsLetter (.char '-') := by decide
  have hplus : ¬ IsLetter (.char '+') := by decide
  cases text with
  | nil => rfl
  | cons c rest =>
    rcases h.eq_or_ne hminus rfl c with ⟨rfl, hsame⟩ | ⟨hc, hkept⟩
    · rw [List.map_cons, hsame]
      rfl
    · rcases h.eq_or_ne hplus rfl c with ⟨rfl, hsame⟩ | ⟨hd, hleft⟩
      · rw [List.map_cons, hsame]
        rfl
      · simp [stripSign, hc, hd, hkept, hleft]

/-- A respelled length is the same number. -/
theorem length?_map (h : IsRespelling respell) (text : Text) :
    length? (text.map respell) =
      (length? text).map fun found => (found.1, found.2.map respell) := by
  have hpoint : ¬ IsLetter (.char '.') := by decide
  simp only [length?, stripSign_map h, spanDigits_map h]
  cases (spanDigits (stripSign text).2).2 with
  | nil => simp only [List.map_nil, List.head?_nil, reduceCtorEq, if_false]; split <;> rfl
  | cons c rest =>
    rcases h.eq_or_ne hpoint rfl c with ⟨rfl, hsame⟩ | ⟨hc, hkept⟩
    · rw [List.map_cons, hsame]
      simp only [spanDigits_map h, List.head?_cons]
      split <;> rfl
    · simp only [List.map_cons, List.head?_cons, Option.some.injEq, hc, hkept, if_false,
        List.cons.injEq, false_and, imp_self, implies_true]
      split <;> rfl

/-- A text is one of several words in every spelling. -/
theorem any_word_map {spells : Char → CodePoint → Bool} (hkeeps : IsRespelling.Keeps respell spells)
    {words : List String} (hwords : ∀ word ∈ words, ∀ letter ∈ word.toList, IsKeyLetter letter)
    (text : Text) :
    (words.any fun word => stripSpelling spells word.toList (text.map respell) == some []) =
      words.any fun word => stripSpelling spells word.toList text == some [] := by
  induction words with
  | nil => rfl
  | cons word words ih =>
    rw [List.forall_mem_cons] at hwords
    rw [List.any_cons, List.any_cons, ih hwords.2, IsRespelling.stripSpelling_map hkeeps hwords.1]
    cases stripSpelling spells word.toList text with
    | none => rfl
    | some rest =>
      cases rest with
      | nil => rfl
      | cons c rest => rfl

/-- A respelled unit is a unit exactly if it was one. -/
theorem isUnit_map (h : IsRespelling respell) (text : Text) :
    isUnit (text.map respell) = isUnit text := by
  rw [isUnit, isUnit, any_word_map h.keeps_ascii (isKeyLetter_of_all (by decide)),
    List.isEmpty_map]

/-- A width or a height is the same feature in a respelled text. -/
theorem dimension?_map (h : IsRespelling respell) (text : Text) :
    dimension? (text.map respell) = dimension? text := by
  have hname :=
    @firstWord?_map respell _ h.keeps_ascii ["width", "height"] (isKeyLetter_of_all (by decide))
  simp only [dimension?, comparisonOf_map h, hname]
  cases firstWord? isAsciiSpelling ["width", "height"] (comparisonOf text).2 with
  | none => rfl
  | some found =>
    simp only [Option.map_some, Option.bind_eq_bind, Option.bind_some, afterColon?_map h h.blank]
    cases afterColon? isAsciiBlank found.2 with
    | none => rfl
    | some value =>
      simp only [Option.map_some, Option.bind_some, length?_map h]
      cases length? value with
      | none => rfl
      | some read => simp only [Option.map_some, Option.bind_some, isUnit_map h]

/-- An aspect ratio is the same feature in a respelled text. -/
theorem aspectRatio?_map (h : IsRespelling respell) (text : Text) :
    aspectRatio? (text.map respell) = aspectRatio? text := by
  have hname :=
    @firstWord?_map respell _ h.keeps_ascii ["aspect-ratio"] (isKeyLetter_of_all (by decide))
  have hslash : ¬ IsLetter (.char '/') := by decide
  simp only [aspectRatio?, comparisonOf_map h, hname]
  cases firstWord? isAsciiSpelling ["aspect-ratio"] (comparisonOf text).2 with
  | none => rfl
  | some found =>
    simp only [Option.map_some, Option.bind_eq_bind, Option.bind_some, afterColon?_map h h.blank]
    cases afterColon? isAsciiBlank found.2 with
    | none => rfl
    | some value =>
      simp only [Option.map_some, Option.bind_some, spanDigits_map h,
        IsRespelling.dropWhile_map h.blank]
      cases (spanDigits value).2.dropWhile isAsciiBlank with
      | nil => rfl
      | cons c rest =>
        rcases h.eq_or_ne hslash rfl c with ⟨rfl, hsame⟩ | ⟨hc, hkept⟩
        · rw [List.map_cons, hsame]
          simp only [IsRespelling.dropWhile_map h.blank, spanDigits_map h, List.isEmpty_map]
        · simp [hc, hkept]

/-- The lower case of a spelled letter is the same in every spelling, wherever it stands. -/
theorem lowerAt_map (h : IsRespelling respell) {letter : Char} {c : CodePoint}
    (hletter : IsKeyLetter letter) (hspells : isWideSpelling letter c = true)
    (before after other rest : Text) :
    lowerAt before (respell c) after = lowerAt other c rest := by
  cases hascii : isAsciiSpelling letter c with
  | true =>
    rw [lowerAt_of_isAsciiSpelling hletter ((h.isAsciiSpelling hletter c).trans hascii),
      lowerAt_of_isAsciiSpelling hletter hascii]
  | false =>
    have hwide : ∀ mark ∈ [CodePoint.char 'İ', .char 'ı', .char 'ſ', .char '\u212a'],
        ¬ IsLetter mark ∧ isAsciiBlank mark = false := by decide
    have hother : c ∈ [CodePoint.char 'İ', .char 'ı', .char 'ſ', .char '\u212a'] := by
      simp only [isWideSpelling, hascii, Bool.false_or, Bool.or_eq_true, Bool.and_eq_true,
        beq_iff_eq] at hspells
      rcases hspells with (⟨-, rfl | rfl⟩ | ⟨-, rfl⟩) | ⟨-, rfl⟩ <;> decide
    rw [(h.eq_iff (hwide c hother).1 (hwide c hother).2).2 rfl]
    simp only [List.mem_cons, List.not_mem_nil, or_false] at hother
    rcases hother with rfl | rfl | rfl | rfl <;> rfl

/-- The lower case of a spelled word is the same in every spelling. -/
theorem lowerAfter_map (h : IsRespelling respell) {word : List Char} {text : Text}
    (hword : ∀ letter ∈ word, IsKeyLetter letter)
    (hspells : List.Forall₂ (fun letter c => isWideSpelling letter c = true) word text)
    (before other : Text) : lowerAfter before (text.map respell) = lowerAfter other text := by
  induction hspells generalizing before other with
  | nil => rfl
  | cons hletter _ ih =>
    rw [List.forall_mem_cons] at hword
    rw [List.map_cons, lowerAfter, lowerAfter, lowerAt_map h hword.1 hletter, ih hword.2]

/-- A feature with a keyword is the same in a respelled text. -/
theorem keyword?_map (h : IsRespelling respell) {feature : String × List String}
    (hfeature : feature ∈ keywordFeatures) (text : Text) :
    keyword? feature (text.map respell) = keyword? feature text := by
  have hnames : ∀ name ∈ keywordFeatures.map (·.1), ∀ letter ∈ name.toList, IsKeyLetter letter :=
    isKeyLetter_of_all (by decide)
  have hname := List.forall_mem_map.1 hnames
  have hwords := isKeyLetter_of_mem_keywordFeatures feature hfeature
  simp only [keyword?, IsRespelling.stripSpelling_map h.keeps_wide (hname feature hfeature)]
  cases stripSpelling isWideSpelling feature.1.toList text with
  | none => rfl
  | some rest =>
    simp only [Option.map_some, Option.bind_eq_bind, Option.bind_some, afterColon?_map h h.isBlank]
    cases afterColon? isBlank rest with
    | none => rfl
    | some value =>
      simp only [Option.map_some, Option.bind_some, any_word_map h.keeps_wide hwords]
      split
      · next hknown =>
        obtain ⟨word, hword, hstripped⟩ := List.any_eq_true.1 hknown
        have hspells := forall₂_of_stripSpelling (beq_iff_eq.1 hstripped)
        rw [lower, lower, lowerAfter_map h (hwords word hword) hspells]
      · rfl

/-- A text writes the same feature in every spelling. -/
theorem feature?_map (h : IsRespelling respell) (text : Text) :
    feature? (text.map respell) = feature? text := by
  have hkeyword : ∀ features ⊆ keywordFeatures,
      (features.findSome? fun feature => keyword? feature (text.map respell)) =
        features.findSome? fun feature => keyword? feature text := by
    intro features hknown
    induction features with
    | nil => rfl
    | cons feature features ih =>
      rw [List.cons_subset] at hknown
      rw [List.findSome?_cons, List.findSome?_cons, keyword?_map h hknown.1, ih hknown.2]
  rw [feature?, feature?, dimension?_map h, aspectRatio?_map h, hkeyword _ (List.Subset.refl _)]

/-! ## What is taken off the front -/

/-- The blanks between two words are skipped in a respelled text as they were. -/
theorem skipGap?_map (h : IsRespelling respell) (text : Text) :
    skipGap? (text.map respell) = (skipGap? text).map (·.map respell) := by
  cases text with
  | nil => rfl
  | cons c rest =>
    rw [List.map_cons, skipGap?, skipGap?, h.isBlank, IsRespelling.dropWhile_map h.isBlank]
    split <;> rfl

/-- Small letters are letters of keywords. -/
theorem isKeyLetter_of_isLower {word : List Char} (h : ∀ letter ∈ word, letter.isLower = true) :
    ∀ letter ∈ word, IsKeyLetter letter :=
  fun letter hletter => .inl (h letter hletter)

/-- Media types are words of key letters. -/
theorem isKeyLetter_mediaTypes : ∀ word ∈ mediaTypes, ∀ letter ∈ word.toList, IsKeyLetter letter :=
  isKeyLetter_of_all (by decide)

/-- A respelled text has the same media type in front. -/
theorem afterMediaType?_map (h : IsRespelling respell) (text : Text) :
    afterMediaType? (text.map respell) = (afterMediaType? text).map (·.map respell) := by
  have hstrip := fun text =>
    IsRespelling.stripSpelling_map h.keeps_wide (isKeyLetter_of_isLower isLower_and) text
  simp only [afterMediaType?, firstWord?_map h.keeps_wide isKeyLetter_mediaTypes]
  cases firstWord? isWideSpelling mediaTypes text with
  | none => rfl
  | some found =>
    simp only [Option.map_some, Option.bind_eq_bind, Option.bind_some, skipGap?_map h]
    cases skipGap? found.2 with
    | none => rfl
    | some rest =>
      simp only [Option.map_some, Option.bind_some, hstrip]
      cases stripSpelling isWideSpelling "and".toList rest with
      | none => rfl
      | some after => simp only [Option.map_some, Option.bind_some, skipGap?_map h]

/-- The media type is taken off a respelled text as it was. -/
theorem dropMediaType_map (h : IsRespelling respell) (text : Text) :
    dropMediaType (text.map respell) = (dropMediaType text).map respell := by
  have hrest : (afterMediaType? (text.map respell)).getD (text.map respell) =
      ((afterMediaType? text).getD text).map respell := by
    rw [afterMediaType?_map h]
    cases afterMediaType? text with
    | none => rfl
    | some rest => rfl
  have htype : ∀ text, isMediaType (text.map respell) = isMediaType text :=
    any_word_map h.keeps_wide isKeyLetter_mediaTypes
  simp only [dropMediaType, hrest, htype, List.isEmpty_map]
  split <;> rfl

/-- What is worked on of a respelled text is the respelling of what was. -/
theorem working_map (h : IsRespelling respell) (text : Text) :
    dropMediaType (trim (text.map respell)) = (dropMediaType (trim text)).map respell := by
  rw [h.trim_map, dropMediaType_map h]

/-- A respelled text has a negation in front exactly if it had one. -/
theorem afterNot?_map (h : IsRespelling respell) (text : Text) :
    afterNot? (text.map respell) = (afterNot? text).map (·.map respell) := by
  rw [afterNot?, afterNot?,
    IsRespelling.stripSpelling_map h.keeps_wide (isKeyLetter_of_isLower isLower_not)]
  cases stripSpelling isWideSpelling "not".toList text with
  | none => rfl
  | some rest => exact skipGap?_map h rest

/-- As many negations are taken off a respelled text. -/
theorem stripNots_map (h : IsRespelling respell) (bound : Nat) (text : Text) :
    stripNots bound (text.map respell) =
      ((stripNots bound text).1, (stripNots bound text).2.map respell) := by
  induction bound generalizing text with
  | zero => rfl
  | succ bound ih =>
    rw [stripNots, stripNots, afterNot?_map h]
    cases afterNot? text with
    | none => rfl
    | some rest => simp only [Option.map_some, ih]

/-! ## Clauses and cuts -/

/-- Only an opening parenthesis is respelled as one. -/
theorem open_iff (h : IsRespelling respell) (c : CodePoint) :
    respell c = .char '(' ↔ c = .char '(' :=
  h.eq_iff (by decide) (by decide)

/-- Only a closing parenthesis is respelled as one. -/
theorem close_iff (h : IsRespelling respell) (c : CodePoint) :
    respell c = .char ')' ↔ c = .char ')' :=
  h.eq_iff (by decide) (by decide)

/-- A respelled clause has the respelled content. -/
theorem clause?_map (h : IsRespelling respell) (text : Text) :
    clause? (text.map respell) = (clause? text).map (·.map respell) := by
  have htake : ∀ text : Text, (text.map respell).takeWhile (· != .char ')') =
      (text.takeWhile (· != .char ')')).map respell := by
    intro text
    have hsame : ((· != CodePoint.char ')') ∘ respell) = (· != CodePoint.char ')') := by
      funext c
      exact congrArg (!·) (h.beq_mark (by decide) (by decide) c)
    rw [List.takeWhile_map, hsame]
  have hend : ∀ text : Text, (text.map respell == [.char ')']) = (text == [.char ')']) := by
    intro text
    rw [Bool.eq_iff_iff, beq_iff_eq, beq_iff_eq, List.map_eq_singleton_iff]
    constructor
    · rintro ⟨c, rfl, hc⟩
      rw [(close_iff h c).1 hc]
    · rintro rfl
      exact ⟨_, rfl, (close_iff h _).2 rfl⟩
  cases text with
  | nil => rfl
  | cons c rest =>
    have hopen : ¬ IsLetter (.char '(') := by decide
    rcases h.eq_or_ne hopen rfl c with ⟨rfl, hsame⟩ | ⟨hc, hkept⟩
    · rw [List.map_cons, hsame]
      simp only [clause?, htake, List.isEmpty_map, List.length_map, ← List.map_drop, hend]
      split <;> rfl
    · simp [clause?, hc, hkept]

/-- The scan for delimiters cuts a text at the same places in every spelling, if it looks for them
in the same shadow. -/
theorem splitFrom_map (h : IsRespelling respell) (needle : Text) (width : Nat) (depth : Int)
    (skip : Nat) (current shadow text : Text) :
    splitFrom needle width depth skip (current.map respell) shadow (text.map respell) =
      (splitFrom needle width depth skip current shadow text).map (·.map respell) := by
  induction text generalizing depth skip current shadow with
  | nil =>
    rw [List.map_nil, splitFrom, splitFrom, List.isEmpty_map]
    split
    · rfl
    · rw [List.map_singleton, List.map_reverse]
  | cons c rest ih =>
    rw [List.map_cons]
    cases skip with
    | succ skip => exact ih depth skip current shadow.tail
    | zero =>
      rw [splitFrom, splitFrom]
      have hcut := ih depth (width - 1) [] shadow.tail
      rw [List.map_nil] at hcut
      simp only [open_iff h, close_iff h, ← List.map_cons, ih, hcut, ← List.map_reverse]
      split
      · rfl
      · split
        · rfl
        · split
          · rfl
          · rfl

/-- Commas are found at the same places in every spelling. -/
theorem splitTopLevel_comma_map (h : IsRespelling respell) (text : Text) :
    splitTopLevel (text.map respell) "," false =
      (splitTopLevel text "," false).map (·.map respell) := by
  have halike : List.Forall₂ (Alike [.char ',']) (text.map respell) text := by
    rw [List.forall₂_map_left_iff, List.forall₂_same]
    intro c _ mark hmark
    rw [List.mem_singleton.1 hmark, eq_comm, h.eq_iff (by decide) (by decide), eq_comm]
  rw [Written.splitTopLevel_comma, Written.splitTopLevel_comma, List.map_id, List.map_id,
    splitFrom_congr halike]
  exact splitFrom_map h _ _ _ _ [] text text

/-- A text that splits alike when it is respelled is cut alike. -/
theorem cuts?_map {delimiter text : Text} {ignoreCase : Bool}
    (hsplit : splitTopLevel (text.map respell) delimiter ignoreCase =
      (splitTopLevel text delimiter ignoreCase).map (·.map respell)) :
    cuts? (text.map respell) delimiter ignoreCase =
      (cuts? text delimiter ignoreCase).map (·.map (·.map respell)) := by
  -- a segment that becomes the whole text was the whole text, being as long
  have hwhole : (splitTopLevel text delimiter ignoreCase).map (·.map respell) = [text.map respell] ↔
      splitTopLevel text delimiter ignoreCase = [text] := by
    constructor
    · intro hone
      obtain ⟨part, hparts, hpart⟩ := List.map_eq_singleton_iff.1 hone
      have hlength : part.length = text.length := by
        rw [← List.length_map respell, hpart, List.length_map]
      have hmember : part ∈ splitTopLevel text delimiter ignoreCase := by
        rw [hparts]
        exact List.mem_singleton_self part
      exact (length_of_mem_splitTopLevel hmember).resolve_left (by omega)
    · intro hone
      rw [hone]
      rfl
  have hbeq : ((splitTopLevel text delimiter ignoreCase).map (·.map respell) == [text.map respell]) =
      (splitTopLevel text delimiter ignoreCase == [text]) := by
    rw [Bool.eq_iff_iff, beq_iff_eq, beq_iff_eq, hwhole]
  simp only [cuts?, hsplit, List.isEmpty_map, hbeq]
  split <;> rfl

/-- A respelling neither adds nor removes the dotted capital I. -/
theorem dotted_mem_iff (h : IsRespelling respell) {text : Text} :
    .char 'İ' ∈ text.map respell ↔ .char 'İ' ∈ text := by
  rw [List.mem_map]
  constructor
  · rintro ⟨c, hc, hsame⟩
    rwa [(h.eq_iff (by decide) (by decide)).1 hsame] at hc
  · intro hmember
    exact ⟨_, hmember, (h.eq_iff (by decide) (by decide)).2 rfl⟩

/-- A respelled clause is the same feature. -/
theorem featureOf?_map (h : IsRespelling respell) (text : Text) :
    featureOf? (text.map respell) = featureOf? text := by
  rw [featureOf?, featureOf?, clause?_map h]
  cases clause? text with
  | none => rfl
  | some content => simp only [Option.map_some, Option.bind_some, h.trim_map, feature?_map h]

/-! ## Texts that are cut nowhere -/

/-- A text without delimiters outside parentheses, nor the dotted capital I. -/
structure IsWhole (text : Text) : Prop where
  clear : .char 'İ' ∉ text
  commaless : Spares id [.char ','] text
  spares : Spares lowerPlain Written.conjunction text

namespace IsWhole

variable {text part : Text} {parts : List Text}

/-- A text without the dotted capital I that is not cut is whole. -/
theorem of_cuts? (hdotted : .char 'İ' ∉ text) (hcomma : cuts? text "," false = none)
    (hconjunction : cuts? text " and " true = none) : IsWhole text where
  clear := hdotted
  commaless := cuts?_comma_eq_none_iff.1 hcomma
  spares := (cuts?_conjunction_eq_none_iff hdotted).1 hconjunction

/-- A whole text is not cut at a comma. -/
theorem comma (h : IsWhole text) : cuts? text "," false = none :=
  cuts?_comma_eq_none_iff.2 h.commaless

/-- A whole text is not cut at a conjunction. -/
theorem conjunction (h : IsWhole text) : cuts? text " and " true = none :=
  (cuts?_conjunction_eq_none_iff h.clear).2 h.spares

/-- What is worked on of a whole text is whole. -/
theorem working (h : IsWhole text) : IsWhole (dropMediaType (trim text)) where
  clear := notMem_working h.clear
  commaless := h.commaless.working
  spares := h.spares.working

/-- What comes after negations has no delimiter if the text has none. -/
theorem of_stripNots {bound count : Nat} {rest : Text} (h : IsWhole text)
    (hstrip : stripNots bound text = (count, rest)) : IsWhole rest := by
  obtain ⟨lead, hsplit, -, hlead⟩ := exists_stripNots hstrip
  have htext : text = lead ++ (rest ++ []) := by rw [List.append_nil, hsplit]
  have hlevel := nesting_of_unmarked hlead
  rw [htext] at h
  refine ⟨fun hmember => h.clear ?_, h.commaless.of_isInfix hlevel, h.spares.of_isInfix hlevel⟩
  exact List.mem_append_right lead (List.mem_append_left [] hmember)

/-- An operand of a text without commas is cut nowhere. -/
theorem of_mem_operands (hdotted : .char 'İ' ∉ text) (hcomma : cuts? text "," false = none)
    (hparts : cuts? text " and " true = some parts) (hpart : part ∈ parts) : IsWhole part := by
  have hscan := cuts_of_cuts? (cuts_conjunction hdotted) hparts
  obtain ⟨hspares, before, after, hsplit, hlevel⟩ := hscan.of_mem isDelimiter_conjunction hpart
  have hcommaless := cuts?_comma_eq_none_iff.1 hcomma
  rw [hsplit] at hcommaless
  exact ⟨fun hmember => hdotted (mem_of_mem_cuts? hparts hpart hmember),
    hcommaless.of_isInfix hlevel, hspares⟩

end IsWhole

/-- No alternative is cut at commas. -/
theorem cuts?_comma_of_mem {text part : Text} {parts : List Text}
    (hparts : cuts? text "," false = some parts) (hpart : part ∈ parts) :
    cuts? (dropMediaType (trim part)) "," false = none := by
  have hscan := cuts_of_cuts? (cuts_comma text) hparts
  exact cuts?_comma_eq_none_iff.2 (hscan.of_mem isDelimiter_comma hpart).1.working

/-! ## Queries -/

/-- A text that is cut nowhere, in either spelling, is read alike. -/
theorem parse?_map_of_isWhole (h : IsRespelling respell) {text : Text}
    (hwhole : IsWhole (dropMediaType (trim text)))
    (hother : IsWhole ((dropMediaType (trim text)).map respell)) :
    parse? (text.map respell) = parse? text := by
  induction hlength : text.length using Nat.strong_induction_on generalizing text with
  | _ length ih =>
    have hworking := working_map h text
    cases hstrip : stripNots (dropMediaType (trim text)).length (dropMediaType (trim text)) with
    | mk count rest =>
      have hotherStrip : stripNots ((dropMediaType (trim text)).map respell).length
          ((dropMediaType (trim text)).map respell) = (count, rest.map respell) := by
        rw [List.length_map, stripNots_map h, hstrip]
      have hotherRest := hother.of_stripNots hotherStrip
      rw [← hworking] at hother hotherStrip
      rw [parse?_of_uncut hwhole.comma hwhole.conjunction hstrip,
        parse?_of_uncut hother.comma hother.conjunction hotherStrip]
      split
      · exact featureOf?_map h rest
      · next hcount =>
        obtain ⟨fewer, rfl⟩ := Nat.exists_eq_succ_of_ne_zero hcount
        have hshorter : rest.length < length := by
          rw [← hlength]
          exact lt_of_lt_of_le (length_of_stripNots hstrip) (length_working_le text)
        have hotherBelow := hotherRest.working
        rw [working_map h] at hotherBelow
        rw [ih _ hshorter (hwhole.of_stripNots hstrip).working hotherBelow rfl]

/-- Parts that are read alike one by one are read alike together. -/
theorem mapM_parse?_map {parts : List Text}
    (hparts : ∀ part ∈ parts, parse? (part.map respell) = parse? part) :
    (parts.map (·.map respell)).mapM parse? = parts.mapM parse? := by
  induction parts with
  | nil => rfl
  | cons part parts ih =>
    rw [List.forall_mem_cons] at hparts
    rw [List.map_cons, List.mapM_cons, List.mapM_cons, hparts.1, ih hparts.2]

/-- The conjunctions of a text are found at the same places in the other spelling. -/
def IsSteady (respell : CodePoint → CodePoint) (text : Text) : Prop :=
  splitTopLevel (text.map respell) " and " true =
    (splitTopLevel text " and " true).map (·.map respell)

instance (respell : CodePoint → CodePoint) (text : Text) : Decidable (IsSteady respell text) :=
  inferInstanceAs (Decidable (_ = _))

/-- A text that has no commas outside parentheses is read alike if its conjunctions are found at
the same places. -/
theorem parse?_map_of_isSteady (h : IsRespelling respell) {text : Text} (hdotted : .char 'İ' ∉ text)
    (hcomma : cuts? (dropMediaType (trim text)) "," false = none)
    (hsteady : IsSteady respell (dropMediaType (trim text))) :
    parse? (text.map respell) = parse? text := by
  have hclear := notMem_working hdotted
  have hotherClear : .char 'İ' ∉ (dropMediaType (trim text)).map respell :=
    fun hmember => hclear ((dotted_mem_iff h).1 hmember)
  have hotherComma : cuts? ((dropMediaType (trim text)).map respell) "," false = none := by
    rw [cuts?_map (splitTopLevel_comma_map h _), hcomma, Option.map_none]
  have hcuts := cuts?_map hsteady
  cases hparts : cuts? (dropMediaType (trim text)) " and " true with
  | none =>
    rw [hparts, Option.map_none] at hcuts
    exact parse?_map_of_isWhole h (.of_cuts? hclear hcomma hparts)
      (.of_cuts? hotherClear hotherComma hcuts)
  | some parts =>
    rw [hparts, Option.map_some] at hcuts
    have hsame : ∀ part ∈ parts, parse? (part.map respell) = parse? part := by
      intro part hpart
      have hpartWhole := IsWhole.of_mem_operands hclear hcomma hparts hpart
      have hotherWhole :=
        IsWhole.of_mem_operands hotherClear hotherComma hcuts (List.mem_map_of_mem hpart)
      have hotherWorking := hotherWhole.working
      rw [working_map h] at hotherWorking
      exact parse?_map_of_isWhole h hpartWhole.working hotherWorking
    rw [← working_map h] at hotherComma hcuts
    rw [parse?_of_operands hcomma hparts, parse?_of_operands hotherComma hcuts,
      mapM_parse?_map hsame]

/-- The alternatives of a query: what is read between its commas, without the media types before. -/
def alternatives (query : Text) : List Text :=
  match cuts? (dropMediaType (trim query)) "," false with
  | some parts => parts.map fun part => dropMediaType (trim part)
  | none => [dropMediaType (trim query)]

/-- A query without the dotted capital I is read alike in both spellings if in each of its
alternatives the conjunctions are found at the same places. -/
theorem parse?_map (h : IsRespelling respell) {query : Text} (hdotted : .char 'İ' ∉ query)
    (hsteady : ∀ alternative ∈ alternatives query, IsSteady respell alternative) :
    parse? (query.map respell) = parse? query := by
  rw [alternatives] at hsteady
  cases hparts : cuts? (dropMediaType (trim query)) "," false with
  | none =>
    rw [hparts] at hsteady
    exact parse?_map_of_isSteady h hdotted hparts (hsteady _ (List.mem_singleton_self _))
  | some parts =>
    rw [hparts] at hsteady
    have hcuts := cuts?_map (splitTopLevel_comma_map h (dropMediaType (trim query)))
    rw [hparts, Option.map_some] at hcuts
    have hsame : ∀ part ∈ parts, parse? (part.map respell) = parse? part := by
      intro part hpart
      exact parse?_map_of_isSteady h (notMem_part hdotted hparts hpart)
        (cuts?_comma_of_mem hparts hpart) (hsteady _ (List.mem_map_of_mem hpart))
    rw [parse?_of_cuts? rfl hparts, parse?_of_cuts? (working_map h query) hcuts,
      mapM_parse?_map hsame]

end Breakpoint.Query
