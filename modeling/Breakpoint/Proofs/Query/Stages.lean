import Breakpoint.Proofs.Query.Splitting
import Breakpoint.Proofs.Query.Written

/-!
# The stages of reading a written query

The scan for commas goes through terms and conjunctions without a cut, the scan for conjunctions
through terms. Around a text blanks are taken off, before an alternative its media type, before a
term its negations, and what is left of a term is read as a feature.
-/

namespace Breakpoint.Written

open Breakpoint.Text Breakpoint.Query

/-- No blanks. -/
def Blanks.none : Blanks := ⟨[], by simp⟩

/-! ## What the scans go through -/

/-- The lower case of a conjunction between its spaces. -/
def conjunction : Text := .char ' ' :: [.char 'a', .char 'n', .char 'd', .char ' ']

/-- No comma in a piece without parentheses, commas and delimiters. -/
theorem uncut_comma {piece : Text}
    (hpiece : ∀ c ∈ piece, c ≠ .char '(' ∧ c ≠ .char ')' ∧ c ≠ .char ',') (rest : Text) :
    Uncut id [.char ','] piece rest :=
  Uncut.of_forall hpiece rest

/-- Blanks are not cut at a comma. -/
theorem Blanks.uncut_comma (blanks : Blanks) (rest : Text) :
    Uncut id [.char ','] blanks.text rest := by
  apply Written.uncut_comma
  intro c hc
  obtain ⟨hopen, hclose, hcomma, -⟩ := ne_of_isBlank (blanks.blank c hc)
  exact ⟨hopen, hclose, hcomma⟩

/-- A keyword is not cut at a comma. -/
theorem Keyword.uncut_comma {word : String} (keyword : Keyword word)
    (hknown : word ∈ "not" :: "and" :: mediaTypes) (rest : Text) :
    Uncut id [.char ','] keyword.text rest :=
  Written.uncut_comma (fun c hc => ne_of_isLetter (keyword.isLetter hknown c hc)) rest

/-- A clause is cut nowhere. -/
theorem Clause.uncut {fold : CodePoint → CodePoint} {needle : Text} (clause : Clause)
    (rest : Text) : Uncut fold needle clause.text rest :=
  uncut_parentheses clause.unopened clause.closed rest

/-- A term is not cut at a comma. -/
theorem Term.uncut_comma (term : Term) (rest : Text) : Uncut id [.char ','] term.text rest := by
  obtain ⟨negations, clause⟩ := term
  have hnegations : ∀ rest, Uncut id [.char ','] (negations.flatMap (·.text)) rest := by
    induction negations with
    | nil => exact Uncut.nil
    | cons negation negations ih =>
      intro rest
      rw [List.flatMap_cons]
      apply Uncut.append
      · apply Uncut.append
        · exact negation.word.uncut_comma (by simp) _
        · exact negation.gap.uncut_comma _
      · exact ih rest
  exact (hnegations _).append (clause.uncut rest)

/-- What joins two terms is not cut at a comma. -/
theorem Joint.uncut_comma (joint : Joint) (rest : Text) : Uncut id [.char ','] joint.text rest := by
  have hspace : ∀ c ∈ ([.char ' '] : Text), c ≠ .char '(' ∧ c ≠ .char ')' ∧ c ≠ .char ',' := by
    decide
  have hdelimiter : ∀ rest, Uncut id [.char ','] joint.delimiter rest := by
    intro rest
    exact (Written.uncut_comma hspace _).append
      ((joint.word.uncut_comma (by simp) _).append (Written.uncut_comma hspace rest))
  rw [Joint.text]
  apply Uncut.append
  · exact (joint.before.uncut_comma _).append (hdelimiter _)
  · exact joint.after.uncut_comma rest

/-- An alternative is not cut at a comma. -/
theorem Alternative.uncut_comma_body (alternative : Alternative) (rest : Text) :
    Uncut id [.char ','] alternative.body rest := by
  obtain ⟨mediaType, first, others⟩ := alternative
  rw [Alternative.body]
  dsimp only
  induction others generalizing first with
  | nil =>
    rw [joined, List.flatMap_nil, List.append_nil]
    exact first.uncut_comma rest
  | cons other others ih =>
    obtain ⟨joint, next⟩ := other
    rw [joined_cons]
    exact (first.uncut_comma _).append ((joint.uncut_comma _).append (ih next))

/-- The media type of an alternative is not cut at a comma. -/
theorem Alternative.uncut_comma_lead (alternative : Alternative) (rest : Text) :
    Uncut id [.char ','] alternative.lead rest := by
  obtain ⟨mediaType, first, others⟩ := alternative
  cases mediaType with
  | none => exact Uncut.nil rest
  | some type =>
    have hname : type.name ∈ "not" :: "and" :: mediaTypes := by simp [type.known]
    exact (type.word.uncut_comma hname _).append
      ((type.before.uncut_comma _).append
        ((type.conjunction.uncut_comma (by simp) _).append (type.after.uncut_comma rest)))

/-- A blank begins no conjunction unless the word comes right after it. -/
theorem Blanks.uncut_conjunction (blanks : Blanks) {rest : Text}
    (hrest : (rest.map lowerPlain).head? ≠ some (.char 'a')) :
    Uncut lowerPlain conjunction blanks.text rest := by
  obtain ⟨blanks, hblanks⟩ := blanks
  dsimp only
  induction blanks with
  | nil => exact Uncut.nil rest
  | cons c blanks ih =>
    rw [List.forall_mem_cons] at hblanks
    obtain ⟨hopen, hclose, -, -⟩ := ne_of_isBlank hblanks.1
    have hfirst : Uncut lowerPlain conjunction [c] (blanks ++ rest) := by
      apply Uncut.single hopen hclose
      rw [conjunction, List.map_cons, List.cons_prefix_cons]
      intro hcut
      cases blanks with
      | nil =>
        obtain ⟨after, hafter⟩ := hcut.2
        rw [List.nil_append] at hafter
        rw [← hafter] at hrest
        exact hrest rfl
      | cons next blanks =>
        have hnext := hblanks.2 next List.mem_cons_self
        rw [List.cons_append, List.map_cons, List.cons_prefix_cons,
          lowerPlain_of_isBlank hnext] at hcut
        exact (ne_of_isBlank hnext).2.2.2 hcut.2.1.symm
    exact hfirst.append (ih hblanks.2)

/-- What begins a term is not the word of a conjunction. -/
theorem BeginsTerm.head_lowerPlain {text : Text} (h : BeginsTerm text) :
    (text.map lowerPlain).head? ≠ some (.char 'a') := by
  cases text with
  | nil => exact h.elim
  | cons c text =>
    rcases h with hopen | hletter
    · subst hopen
      exact fun hsame => absurd (Option.some.inj hsame) (by decide)
    · rw [List.map_cons, lowerPlain_of_isAsciiSpelling (by decide) hletter]
      simp

/-- A negation is not cut at a conjunction. -/
theorem Negation.uncut_conjunction (negation : Negation) {rest : Text} (hrest : BeginsTerm rest) :
    Uncut lowerPlain conjunction negation.text rest := by
  apply Uncut.append
  · apply Uncut.of_forall
    intro c hc
    have hletter := negation.word.isLetter (by simp) c hc
    obtain ⟨hopen, hclose, -⟩ := ne_of_isLetter hletter
    refine ⟨hopen, hclose, ?_⟩
    have hlower : lowerPlain c ∈ negation.word.text.map lowerPlain := List.mem_map_of_mem hc
    rw [map_lowerPlain_of_spells negation.word.spells
      (isLower_keywords "not" (by simp))] at hlower
    intro hsame
    rw [hsame] at hlower
    exact absurd hlower (by decide)
  · exact negation.gap.uncut_conjunction hrest.head_lowerPlain

/-- A term is not cut at a conjunction. -/
theorem Term.uncut_conjunction (term : Term) (rest : Text) :
    Uncut lowerPlain conjunction term.text rest := by
  obtain ⟨negations, clause⟩ := term
  induction negations with
  | nil => exact clause.uncut rest
  | cons negation negations ih =>
    have hterm : (Term.mk (negation :: negations) clause).text =
        negation.text ++ (Term.mk negations clause).text := by
      rw [Term.text, List.flatMap_cons, List.append_assoc, Term.text]
    rw [hterm]
    apply Uncut.append
    · exact negation.uncut_conjunction ((Term.beginsTerm ⟨negations, clause⟩).append rest)
    · exact ih

/-! ## What is taken off -/

/-- The blanks of a gap are skipped. -/
theorem Gap.skipGap? (gap : Gap) {rest : Text} (hrest : EndsBlankless rest.head?) :
    Query.skipGap? (gap.text ++ rest) = some rest := by
  obtain ⟨⟨blanks, hblanks⟩, hne⟩ := gap
  cases blanks with
  | nil => exact absurd rfl hne
  | cons c blanks =>
    rw [List.forall_mem_cons] at hblanks
    show Query.skipGap? (c :: (blanks ++ rest)) = some rest
    rw [Query.skipGap?, if_pos hblanks.1, dropWhile_isBlank hblanks.2 hrest]

/-- A written keyword begins with no blank. -/
theorem Keyword.endsBlankless {word : String} (keyword : Keyword word)
    (hknown : word ∈ "not" :: "and" :: mediaTypes) (rest : Text) :
    EndsBlankless (keyword.text ++ rest).head? := by
  have hletters := keyword.isLetter hknown
  obtain ⟨text, hspells⟩ := keyword
  dsimp only at hletters ⊢
  cases text with
  | nil =>
    have hempty : word.toList = [] := List.forall₂_nil_right_iff.1 hspells
    have hne : ∀ word ∈ "not" :: "and" :: mediaTypes, word.toList ≠ [] := by decide
    exact absurd hempty (hne word hknown)
  | cons first text =>
    intro c hc
    cases hc
    exact isBlank_of_isLetter (hletters first List.mem_cons_self)

/-- A word that begins with another letter is not split off. -/
theorem Keyword.stripSpelling_eq_none {word : String} (keyword : Keyword word)
    {letter other : Char} {letters : List Char} (hword : word.toList = letter :: letters)
    (hlower : letter.isLower = true) (hotherLower : other.isLower = true) (hne : other ≠ letter)
    (others : List Char) (rest : Text) :
    stripSpelling isWideSpelling (other :: others) (keyword.text ++ rest) = none := by
  obtain ⟨text, hspells⟩ := keyword
  rw [hword] at hspells
  cases hspells with
  | cons hletter hrest =>
    exact Text.stripSpelling_eq_none hlower hotherLower hne hletter others

/-- The media type that is written is the one that is found. -/
theorem MediaType.firstWord? (type : MediaType) (rest : Text) :
    Query.firstWord? isWideSpelling mediaTypes (type.word.text ++ rest) = some (type.name, rest) := by
  obtain ⟨name, hknown, word, before, conjunction, after⟩ := type
  dsimp only
  have hfound := stripSpelling_of_spells word.spells rest
  rw [Query.firstWord?, mediaTypes]
  simp only [mediaTypes, List.mem_cons, List.not_mem_nil, or_false] at hknown
  rcases hknown with hname | hname | hname
  · subst hname
    rw [List.findSome?_cons, hfound]
    rfl
  · subst hname
    have hscreen : stripSpelling isWideSpelling "screen".toList (word.text ++ rest) = none :=
      word.stripSpelling_eq_none rfl (by decide) (by decide) (by decide) _ rest
    rw [List.findSome?_cons, hscreen, Option.map_none, List.findSome?_cons, hfound]
    rfl
  · subst hname
    have hscreen : stripSpelling isWideSpelling "screen".toList (word.text ++ rest) = none :=
      word.stripSpelling_eq_none rfl (by decide) (by decide) (by decide) _ rest
    have hall : stripSpelling isWideSpelling "all".toList (word.text ++ rest) = none :=
      word.stripSpelling_eq_none rfl (by decide) (by decide) (by decide) _ rest
    rw [List.findSome?_cons, hscreen, Option.map_none, List.findSome?_cons, hall, Option.map_none,
      List.findSome?_cons, hfound]
    rfl

/-- A media type is taken off with its conjunction. -/
theorem MediaType.afterMediaType? (type : MediaType) {rest : Text} (hrest : BeginsTerm rest) :
    Query.afterMediaType? (type.text ++ rest) = some rest := by
  have hafter := Gap.skipGap? type.after hrest.head
  have hconjunction := stripSpelling_of_spells type.conjunction.spells (type.after.text ++ rest)
  have hbefore := Gap.skipGap? type.before
    (type.conjunction.endsBlankless (by simp) (type.after.text ++ rest))
  rw [MediaType.text, List.append_assoc, List.append_assoc, List.append_assoc,
    Query.afterMediaType?, type.firstWord?]
  show (do Query.skipGap? (← stripSpelling isWideSpelling "and".toList (← Query.skipGap? _))) = _
  rw [hbefore, Option.bind_eq_bind, Option.bind_some, hconjunction]
  exact hafter

/-- Where a term begins there is no media type to drop. -/
theorem BeginsTerm.dropMediaType {text : Text} (h : BeginsTerm text) :
    Query.dropMediaType text = text := by
  rw [Query.dropMediaType, h.afterMediaType?]
  simp

/-- A text that begins like a term is worked on without the blanks around it. -/
theorem BeginsTerm.working {core : Text} (h : BeginsTerm core)
    (hlast : EndsBlankless core.getLast?) (before after : Blanks) :
    Query.dropMediaType (trim (before.text ++ core ++ after.text)) = core := by
  rw [trim_of_blanks before.blank after.blank h.ne_nil h.head hlast]
  exact h.dropMediaType

/-- A media type before a term is dropped. -/
theorem Alternative.dropMediaType (alternative : Alternative) {rest : Text}
    (hrest : BeginsTerm rest) : Query.dropMediaType (alternative.lead ++ rest) = rest := by
  have hempty : rest.isEmpty = false := by simpa using hrest.ne_nil
  obtain ⟨mediaType, first, others⟩ := alternative
  cases mediaType with
  | none => exact hrest.dropMediaType
  | some type =>
    show Query.dropMediaType (type.text ++ rest) = rest
    rw [Query.dropMediaType, type.afterMediaType? hrest, Option.getD_some, hempty, hrest.isMediaType]
    rfl

/-- A text begins with no blank where an alternative begins. -/
theorem Alternative.endsBlankless (alternative : Alternative) {rest : Text}
    (hrest : BeginsTerm rest) : EndsBlankless (alternative.lead ++ rest).head? := by
  obtain ⟨mediaType, first, others⟩ := alternative
  cases mediaType with
  | none => exact hrest.head
  | some type =>
    show EndsBlankless (type.text ++ rest).head?
    rw [MediaType.text, List.append_assoc]
    exact type.word.endsBlankless (by simp [type.known]) _

/-- The blanks and the media type before a term, and the blanks after it, are dropped. -/
theorem Alternative.working (alternative : Alternative) (before after : Blanks) {core : Text}
    (hcore : BeginsTerm core) (hlast : EndsBlankless core.getLast?) :
    Query.dropMediaType (trim (before.text ++ (alternative.lead ++ core) ++ after.text)) = core := by
  have hend : EndsBlankless (alternative.lead ++ core).getLast? := by
    rw [List.getLast?_append_of_ne_nil _ hcore.ne_nil]
    exact hlast
  rw [trim_of_blanks before.blank after.blank (by simp [hcore.ne_nil])
    (alternative.endsBlankless hcore) hend]
  exact alternative.dropMediaType hcore

/-- A term between blanks is worked on without them. -/
theorem Term.working (term : Term) (before after : Blanks) :
    Query.dropMediaType (trim (before.text ++ term.text ++ after.text)) = term.text :=
  term.beginsTerm.working term.endsBlankless before after

/-- A term is at least as long as it has negations. -/
theorem Term.length_negations_le (term : Term) : term.negations.length ≤ term.text.length := by
  obtain ⟨negations, clause⟩ := term
  induction negations with
  | nil => exact Nat.zero_le _
  | cons negation negations ih =>
    have hword : 3 = negation.word.text.length := negation.word.spells.length_eq
    simp only [Term.text, Negation.text, List.flatMap_cons, List.length_append, List.length_cons]
      at ih ⊢
    omega

/-- The negations are stripped and counted. -/
theorem Term.stripNots (term : Term) {bound : Nat} (hbound : term.negations.length ≤ bound) :
    Query.stripNots bound term.text = (term.negations.length, term.clause.text) := by
  obtain ⟨negations, clause⟩ := term
  have hclause : Query.afterNot? clause.text = none := by
    have hopen : isWideSpelling 'n' (.char '(') = false := isWideSpelling_parenthesis (by decide)
    have hstrip : stripSpelling isWideSpelling "not".toList clause.text = none := by
      show stripSpelling isWideSpelling ('n' :: _) (.char '(' :: _) = none
      rw [stripSpelling, if_neg (by simp [hopen])]
    rw [Query.afterNot?, hstrip]
    rfl
  induction negations generalizing bound with
  | nil =>
    cases bound with
    | zero => rfl
    | succ bound =>
      show Query.stripNots (bound + 1) clause.text = _
      rw [Query.stripNots, hclause]
      rfl
  | cons negation negations ih =>
    cases bound with
    | zero => cases hbound
    | succ bound =>
      have hterm : (Term.mk (negation :: negations) clause).text =
          negation.word.text ++ (negation.gap.text ++ (Term.mk negations clause).text) := by
        rw [Term.text, List.flatMap_cons, List.append_assoc, Negation.text, List.append_assoc,
          Term.text]
      have hafter : Query.afterNot? (Term.mk (negation :: negations) clause).text =
          some (Term.mk negations clause).text := by
        rw [hterm, Query.afterNot?, stripSpelling_of_spells negation.word.spells]
        exact negation.gap.skipGap? (Term.beginsTerm ⟨negations, clause⟩).head
      rw [Query.stripNots, hafter]
      simp only
      rw [ih (Nat.le_of_succ_le_succ hbound)]
      rfl

/-- A clause is read as its feature. -/
theorem Clause.parseClause (clause : Clause) :
    Query.parseClause clause.text = .ok (.feature clause.feature) := by
  have htaken : (clause.content ++ [CodePoint.char ')']).takeWhile (· != CodePoint.char ')') =
      clause.content := by
    rw [List.takeWhile_append_of_pos]
    · simp
    · intro c hc
      rw [bne_iff_ne]
      intro hclose
      exact clause.closed (hclose ▸ hc)
  have hclause : Query.clause? clause.text = some clause.content := by
    have hne : clause.content.isEmpty = false := by simpa using clause.content_ne_nil
    show Query.clause? (.char '(' :: (clause.content ++ [.char ')'])) = _
    simp only [Query.clause?, htaken, hne, List.drop_left]
    rfl
  rw [Query.parseClause, hclause]
  simp only [clause.accepted]

end Breakpoint.Written
