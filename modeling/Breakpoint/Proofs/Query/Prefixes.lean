import Breakpoint.Proofs.Query.Written
import Breakpoint.Proofs.Text.Trimming

/-!
# What is taken off the front of a text

A media type with its conjunction, and a negation, are words in any spelling with blanks between
and after them. None of their code points is a mark of the grammar: taking them off moves no
parenthesis and no comma.
-/

namespace Breakpoint.Query

open Breakpoint.Text

/-- A code point that is no mark of the grammar. -/
def IsUnmarked (c : CodePoint) : Prop := c ≠ .char '(' ∧ c ≠ .char ')' ∧ c ≠ .char ','

/-- The text writes a word, each letter in any of its spellings. -/
def WideSpells (word : List Char) (text : Text) : Prop :=
  List.Forall₂ (fun letter c => isWideSpelling letter c = true) word text

/-- A run of blanks that separates. -/
structure IsGap (gap : Text) : Prop where
  nonempty : gap ≠ []
  blank : ∀ c ∈ gap, isBlank c = true

/-- A media type and its conjunction, with the blanks that belong to them. -/
def IsLead (lead : Text) : Prop :=
  ∃ name ∈ mediaTypes, ∃ word before conjunction after,
    lead = word ++ (before ++ (conjunction ++ after)) ∧ WideSpells name.toList word ∧
      IsGap before ∧ WideSpells "and".toList conjunction ∧ IsGap after

variable {c : CodePoint} {letter : Char} {word : List Char} {text rest : Text}

/-! ## Spellings -/

/-- A blank is no mark. -/
theorem isUnmarked_of_isBlank (h : isBlank c = true) : IsUnmarked c := by
  obtain ⟨hopen, hclose, hcomma, -⟩ := Written.ne_of_isBlank h
  exact ⟨hopen, hclose, hcomma⟩

/-- Blanks are no marks. -/
theorem isUnmarked_of_blanks (h : ∀ c ∈ text, isBlank c = true) : ∀ c ∈ text, IsUnmarked c :=
  fun c hc => isUnmarked_of_isBlank (h c hc)

/-- A text without marks has no parenthesis. -/
theorem notMem_of_unmarked (h : ∀ c ∈ text, IsUnmarked c) : .char '(' ∉ text :=
  fun hmember => (h _ hmember).1 rfl

/-- The spellings of a small letter are in ASCII letters, or are one of four others. -/
theorem isLetter_or_mem_of_isWideSpelling (hlower : letter.isLower = true)
    (h : isWideSpelling letter c = true) :
    IsLetter c ∨ c ∈ [CodePoint.char 'İ', .char 'ı', .char 'ſ', .char '\u212a'] := by
  simp only [isWideSpelling, Bool.or_eq_true, Bool.and_eq_true, beq_iff_eq] at h
  rcases h with ((hascii | hi) | hs) | hk
  · exact .inl (isLetter_of_isAsciiSpelling hlower hascii)
  · rcases hi.2 with hsame | hsame <;> simp [hsame]
  · simp [hs.2]
  · simp [hk.2]

/-- What spells a letter is no mark. -/
theorem isUnmarked_of_isWideSpelling (hlower : letter.isLower = true)
    (h : isWideSpelling letter c = true) : IsUnmarked c := by
  rcases isLetter_or_mem_of_isWideSpelling hlower h with hletter | hwide
  · exact Written.ne_of_isLetter hletter
  · have hall : ∀ c ∈ [CodePoint.char 'İ', .char 'ı', .char 'ſ', .char '\u212a'],
        c ≠ .char '(' ∧ c ≠ .char ')' ∧ c ≠ .char ',' := by decide
    exact hall c hwide

/-- What spells a letter is no blank. -/
theorem isBlank_of_isWideSpelling (hlower : letter.isLower = true)
    (h : isWideSpelling letter c = true) : isBlank c = false := by
  rcases isLetter_or_mem_of_isWideSpelling hlower h with hletter | hwide
  · exact isBlank_of_isLetter hletter
  · have hall : ∀ c ∈ [CodePoint.char 'İ', .char 'ı', .char 'ſ', .char '\u212a'],
        isBlank c = false := by decide
    exact hall c hwide

/-- No code point spells two small letters. -/
theorem letter_eq_of_isWideSpelling {other : Char} (hlower : letter.isLower = true)
    (hotherLower : other.isLower = true) (h : isWideSpelling letter c = true)
    (hother : isWideSpelling other c = true) : other = letter := by
  rcases isLetter_or_mem_of_isWideSpelling hlower h with hletter | hwide
  · exact eq_of_isWideSpelling hlower hotherLower (isAsciiSpelling_of_isWideSpelling hletter h) hother
  · have hspelled : ∀ c ∈ [CodePoint.char 'İ', .char 'ı', .char 'ſ', .char '\u212a'],
        ∀ letter : Char, letter.isLower = true → isWideSpelling letter c = true →
          letter = if c = .char 'ſ' then 's' else if c = .char '\u212a' then 'k' else 'i' := by
      intro c hc letter hlower hspells
      have hrange := toNat_of_isLower hlower
      have hascii : isAsciiSpelling letter c = false := by
        rw [Bool.eq_false_iff]
        intro hascii
        have hnone : ∀ c ∈ [CodePoint.char 'İ', .char 'ı', .char 'ſ', .char '\u212a'],
            ¬ IsLetter c := by decide
        exact hnone c hc (isLetter_of_isAsciiSpelling hlower hascii)
      simp only [isWideSpelling, hascii, Bool.false_or, Bool.or_eq_true, Bool.and_eq_true,
        beq_iff_eq] at hspells
      rcases hspells with (⟨rfl, rfl | rfl⟩ | ⟨rfl, rfl⟩) | ⟨rfl, rfl⟩ <;> rfl
    rw [hspelled c hwide letter hlower h, hspelled c hwide other hotherLower hother]

/-- A word is split off where it is spelled. -/
theorem stripSpelling_eq_some_iff :
    stripSpelling isWideSpelling word text = some rest ↔
      ∃ spelled, WideSpells word spelled ∧ text = spelled ++ rest :=
  stripSpelling_iff

/-- What every spelling of a letter has, every code point of a spelled word has. -/
theorem WideSpells.forall_mem {holds : CodePoint → Prop} (h : WideSpells word text)
    (hletters : ∀ letter ∈ word, ∀ c, isWideSpelling letter c = true → holds c) :
    ∀ c ∈ text, holds c := by
  rw [WideSpells] at h
  induction h with
  | nil => simp
  | cons hletter _ ih =>
    rw [List.forall_mem_cons] at hletters ⊢
    exact ⟨hletters.1 _ hletter, ih hletters.2⟩

/-- What spells a word holds no marks. -/
theorem WideSpells.unmarked (h : WideSpells word text)
    (hlower : ∀ letter ∈ word, letter.isLower = true) : ∀ c ∈ text, IsUnmarked c :=
  h.forall_mem fun letter hletter _ => isUnmarked_of_isWideSpelling (hlower letter hletter)

/-! ## Blanks -/

/-- A gap holds no marks. -/
theorem IsGap.unmarked {gap : Text} (h : IsGap gap) : ∀ c ∈ gap, IsUnmarked c :=
  fun c hc => isUnmarked_of_isBlank (h.blank c hc)

/-- A gap is skipped up to what begins without a blank. -/
theorem skipGap?_eq_some_iff :
    skipGap? text = some rest ↔ ∃ gap, IsGap gap ∧ text = gap ++ rest ∧ EndsBlankless rest.head? := by
  constructor
  · intro h
    cases text with
    | nil => cases h
    | cons c text =>
      rw [skipGap?] at h
      split at h
      · next hblank =>
        cases h
        refine ⟨c :: text.takeWhile isBlank, ⟨by simp, ?_⟩, ?_, endsBlankless_dropWhile text⟩
        · rw [List.forall_mem_cons]
          exact ⟨hblank, fun c hc => List.mem_takeWhile_imp hc⟩
        · rw [List.cons_append, List.takeWhile_append_dropWhile]
      · cases h
  · rintro ⟨gap, hgap, rfl, hrest⟩
    cases gap with
    | nil => exact absurd rfl hgap.nonempty
    | cons c gap =>
      have hblank := List.forall_mem_cons.1 hgap.blank
      rw [List.cons_append, skipGap?, if_pos hblank.1, dropWhile_isBlank hblank.2 hrest]

/-! ## Media types -/

/-- Media types are written in small letters. -/
theorem isLower_of_mem_mediaTypes {name : String} (h : name ∈ mediaTypes) :
    ∀ letter ∈ name.toList, letter.isLower = true :=
  Written.isLower_keywords name (by simp [h])

/-- The word for a conjunction is written in small letters. -/
theorem isLower_and : ∀ letter ∈ "and".toList, letter.isLower = true :=
  Written.isLower_keywords "and" (by simp)

/-- The word for a negation is written in small letters. -/
theorem isLower_not : ∀ letter ∈ "not".toList, letter.isLower = true :=
  Written.isLower_keywords "not" (by simp)

/-- No text begins with two of the media types. -/
theorem mediaType_unique {name other : String} (hname : name ∈ mediaTypes)
    (hother : other ∈ mediaTypes) {after : Text}
    (h : stripSpelling isWideSpelling name.toList text = some rest)
    (hotherStrip : stripSpelling isWideSpelling other.toList text = some after) : other = name := by
  have hheads : ∀ name ∈ mediaTypes, ∀ other ∈ mediaTypes,
      name.toList.head? = other.toList.head? → other = name := by decide
  apply hheads name hname other hother
  have hlower := isLower_of_mem_mediaTypes hname
  have hotherLower := isLower_of_mem_mediaTypes hother
  have hnonempty : ∀ name ∈ mediaTypes, name.toList ≠ [] := by decide
  obtain ⟨first, word, hword⟩ := List.exists_cons_of_ne_nil (hnonempty name hname)
  obtain ⟨second, others, hothers⟩ := List.exists_cons_of_ne_nil (hnonempty other hother)
  rw [hword] at h hlower
  rw [hothers] at hotherStrip hotherLower
  cases text with
  | nil => cases h
  | cons c text =>
    rw [stripSpelling] at h hotherStrip
    split at h
    · next hfirst =>
      split at hotherStrip
      · next hsecond =>
        rw [hword, hothers, List.head?_cons, List.head?_cons,
          letter_eq_of_isWideSpelling (hlower first (by simp)) (hotherLower second (by simp)) hfirst
            hsecond]
      · cases hotherStrip
    · cases h

/-- The media type that a text begins with is the first one found. -/
theorem firstWord?_mediaTypes_iff {name : String} :
    firstWord? isWideSpelling mediaTypes text = some (name, rest) ↔
      name ∈ mediaTypes ∧ stripSpelling isWideSpelling name.toList text = some rest := by
  constructor
  · intro h
    obtain ⟨found, hfound, hstripped⟩ := List.exists_of_findSome?_eq_some h
    obtain ⟨after, hafter, hpair⟩ := Option.map_eq_some_iff.1 hstripped
    cases hpair
    exact ⟨hfound, hafter⟩
  · rintro ⟨hname, hstripped⟩
    have hsome : (firstWord? isWideSpelling mediaTypes text).isSome = true := by
      rw [firstWord?, List.findSome?_isSome_iff]
      exact ⟨name, hname, by rw [hstripped]; rfl⟩
    obtain ⟨⟨found, after⟩, hfirst⟩ := Option.isSome_iff_exists.1 hsome
    obtain ⟨word, hword, hfound⟩ := List.exists_of_findSome?_eq_some hfirst
    obtain ⟨left, hleft, hpair⟩ := Option.map_eq_some_iff.1 hfound
    cases hpair
    have hsame : found = name := mediaType_unique hname hword hstripped hleft
    subst hsame
    rw [hfirst, Option.some.inj (hleft.symm.trans hstripped)]

/-- The text after a media type is what comes after its blanks. -/
theorem afterMediaType?_eq_some_iff :
    afterMediaType? text = some rest ↔
      ∃ lead, IsLead lead ∧ text = lead ++ rest ∧ EndsBlankless rest.head? := by
  simp only [afterMediaType?, Option.bind_eq_bind, Option.bind_eq_some_iff, Prod.exists,
    firstWord?_mediaTypes_iff, stripSpelling_eq_some_iff, skipGap?_eq_some_iff]
  constructor
  · rintro ⟨name, afterName, ⟨hname, word, hword, rfl⟩, afterGap, hgap, afterAnd, hand, after, hafter,
      rfl, hrest⟩
    obtain ⟨before, hbefore, rfl, -⟩ := hgap
    obtain ⟨conjunction, hconjunction, rfl⟩ := hand
    exact ⟨_, ⟨name, hname, word, before, conjunction, after, rfl, hword, hbefore, hconjunction,
      hafter⟩, by simp only [List.append_assoc], hrest⟩
  · rintro ⟨lead, ⟨name, hname, word, before, conjunction, after, rfl, hword, hbefore, hconjunction,
      hafter⟩, rfl, hrest⟩
    have hhead : EndsBlankless (conjunction ++ (after ++ rest)).head? := by
      cases hconjunction with
      | cons hletter _ =>
        intro c hc
        cases hc
        exact isBlank_of_isWideSpelling (by decide) hletter
    refine ⟨name, _, ⟨hname, word, hword, by simp only [List.append_assoc]⟩, _,
      ⟨before, hbefore, rfl, hhead⟩, _, ⟨conjunction, hconjunction, rfl⟩, after, hafter, rfl, hrest⟩

/-- A media type with its conjunction holds no marks. -/
theorem IsLead.unmarked {lead : Text} (h : IsLead lead) : ∀ c ∈ lead, IsUnmarked c := by
  obtain ⟨name, hname, word, before, conjunction, after, rfl, hword, hbefore, hconjunction,
    hafter⟩ := h
  simp only [List.forall_mem_append]
  exact ⟨hword.unmarked (isLower_of_mem_mediaTypes hname), hbefore.unmarked,
    hconjunction.unmarked isLower_and, hafter.unmarked⟩

/-- What comes after a mark of the grammar makes no difference to the media type before a text. -/
theorem afterMediaType?_append {suffix : Text}
    (h : ∀ c, suffix.head? = some c → ∃ mark ∈ text ++ [c], ¬ IsUnmarked mark) :
    afterMediaType? (text ++ suffix) = (afterMediaType? text).map (· ++ suffix) := by
  ext whole
  rw [Option.map_eq_some_iff, afterMediaType?_eq_some_iff]
  constructor
  · rintro ⟨lead, hlead, hsplit, hhead⟩
    rcases List.append_eq_append_iff.1 hsplit with ⟨more, rfl, hrest⟩ | ⟨after, rfl, rfl⟩
    · cases more with
      | nil =>
        rw [List.append_nil] at hlead
        rw [List.nil_append] at hrest
        refine ⟨[], afterMediaType?_eq_some_iff.2 ⟨text, hlead, (List.append_nil _).symm, ?_⟩, hrest⟩
        exact fun c hc => by cases hc
      | cons c more =>
        -- The media type would reach over the mark.
        obtain ⟨mark, hmark, hmarked⟩ := h c (by rw [hrest]; rfl)
        refine absurd (hlead.unmarked mark ?_) hmarked
        exact List.mem_append.2 ((List.mem_append.1 hmark).imp_right fun hc => by simp_all)
    · refine ⟨after, afterMediaType?_eq_some_iff.2 ⟨lead, hlead, rfl, ?_⟩, rfl⟩
      cases after with
      | nil => exact fun c hc => by cases hc
      | cons d after => exact hhead
  · rintro ⟨after, hafter, rfl⟩
    obtain ⟨lead, hlead, rfl, hhead⟩ := afterMediaType?_eq_some_iff.1 hafter
    refine ⟨lead, hlead, List.append_assoc _ _ _, ?_⟩
    cases after with
    | cons d after => exact hhead
    | nil =>
      intro c hc
      obtain ⟨mark, hmark, hmarked⟩ := h c hc
      rw [List.append_nil, List.mem_append, List.mem_singleton] at hmark
      rcases hmark with hlead' | rfl
      · exact absurd (hlead.unmarked mark hlead') hmarked
      · rw [Bool.eq_false_iff]
        exact fun hblank => hmarked (isUnmarked_of_isBlank hblank)

/-- A media type is a text that spells one of their names. -/
theorem isMediaType_iff :
    isMediaType text = true ↔ ∃ name ∈ mediaTypes, WideSpells name.toList text := by
  simp [isMediaType, stripSpelling_eq_some_iff]

/-- A media type holds no marks. -/
theorem unmarked_of_isMediaType (h : isMediaType text = true) : ∀ c ∈ text, IsUnmarked c := by
  obtain ⟨name, hname, hspells⟩ := isMediaType_iff.1 h
  exact hspells.unmarked (isLower_of_mem_mediaTypes hname)

/-- The media type before a text with a mark in it is dropped. -/
theorem dropMediaType_of_mem {mark : CodePoint} (hmark : mark ∈ text) (hmarked : ¬ IsUnmarked mark) :
    mark ∈ (afterMediaType? text).getD text ∧
      dropMediaType text = (afterMediaType? text).getD text := by
  have hmember : mark ∈ (afterMediaType? text).getD text := by
    cases h : afterMediaType? text with
    | none => exact hmark
    | some rest =>
      obtain ⟨lead, hlead, rfl, -⟩ := afterMediaType?_eq_some_iff.1 h
      exact (List.mem_append.1 hmark).resolve_left fun hlead' => hmarked (hlead.unmarked mark hlead')
  refine ⟨hmember, ?_⟩
  have hempty : ((afterMediaType? text).getD text).isEmpty = false := by
    rw [List.isEmpty_eq_false_iff]
    exact List.ne_nil_of_mem hmember
  have htype : isMediaType ((afterMediaType? text).getD text) = false := by
    rw [Bool.eq_false_iff]
    exact fun hmedia => hmarked (unmarked_of_isMediaType hmedia mark hmember)
  rw [dropMediaType, hempty, htype]
  rfl

/-- What stands before the text without its media type has no marks. -/
theorem exists_dropMediaType (text : Text) :
    ∃ lead, text = lead ++ dropMediaType text ∧ (∀ c ∈ lead, IsUnmarked c) ∧
      (EndsBlankless text.head? → EndsBlankless (dropMediaType text).head?) := by
  rw [dropMediaType]
  split
  · exact ⟨[], rfl, List.forall_mem_nil _, id⟩
  · cases h : afterMediaType? text with
    | none => exact ⟨[], rfl, List.forall_mem_nil _, id⟩
    | some rest =>
      obtain ⟨lead, hlead, htext, hrest⟩ := afterMediaType?_eq_some_iff.1 h
      exact ⟨lead, htext, hlead.unmarked, fun _ => hrest⟩

/-! ## Negations -/

/-- A negation is a word with blanks after it. -/
theorem exists_afterNot? (h : afterNot? text = some rest) :
    ∃ lead, text = lead ++ rest ∧ lead ≠ [] ∧ ∀ c ∈ lead, IsUnmarked c := by
  simp only [afterNot?, Option.bind_eq_bind, Option.bind_eq_some_iff, stripSpelling_eq_some_iff,
    skipGap?_eq_some_iff] at h
  obtain ⟨-, ⟨word, hword, rfl⟩, gap, hgap, rfl, -⟩ := h
  refine ⟨word ++ gap, by rw [List.append_assoc], by simp [hgap.nonempty], ?_⟩
  rw [List.forall_mem_append]
  exact ⟨hword.unmarked isLower_not, hgap.unmarked⟩

/-- What negations are taken off has no marks, and there is none unless one is counted. -/
theorem exists_stripNots {bound count : Nat} (h : stripNots bound text = (count, rest)) :
    ∃ lead, text = lead ++ rest ∧ (lead = [] ↔ count = 0) ∧ ∀ c ∈ lead, IsUnmarked c := by
  induction bound generalizing text count with
  | zero =>
    cases h
    exact ⟨[], rfl, by simp, by simp⟩
  | succ bound ih =>
    rw [stripNots] at h
    split at h
    · next after hafter =>
      obtain ⟨first, rfl, hfirst, hunmarked⟩ := exists_afterNot? hafter
      cases hstrip : stripNots bound after with
      | mk fewer left =>
        rw [hstrip] at h
        cases h
        obtain ⟨lead, rfl, -, hlead⟩ := ih hstrip
        refine ⟨first ++ lead, by rw [List.append_assoc], by simp [hfirst], ?_⟩
        rw [List.forall_mem_append]
        exact ⟨hunmarked, hlead⟩
    · cases h
      exact ⟨[], rfl, by simp, by simp⟩

end Breakpoint.Query
