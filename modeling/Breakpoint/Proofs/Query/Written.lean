import Breakpoint.Proofs.Query.FeatureText
import Breakpoint.Query.Parse

/-!
# Queries as they are written

A written query is a list of alternatives between commas. An alternative may begin with a media
type and is a list of terms between conjunctions. A term is a feature between parentheses, after
any number of negations. Keywords are written in letters of either case, and blanks of any kind
may stand between the parts.

Each part knows its text, and each term and list its tree.
-/

namespace Breakpoint.Written

open Breakpoint.Text

/-- A run of blanks, maybe empty. -/
structure Blanks where
  text : Text
  blank : ∀ c ∈ text, isBlank c = true

/-- A run of blanks that separates. -/
structure Gap extends Blanks where
  nonempty : text ≠ []

/-- A keyword in letters of either case. -/
structure Keyword (word : String) where
  text : Text
  spells : Spells word.toList text

/-- A negation and the blanks after it. -/
structure Negation where
  word : Keyword "not"
  gap : Gap

/-- The text of a feature between parentheses. -/
structure Clause where
  content : Text
  feature : Feature
  ascii : ∀ c ∈ content, c.val < 0x80
  closed : .char ')' ∉ content
  accepted : Query.feature? (trim content) = some feature

/-- A feature after any number of negations. -/
structure Term where
  negations : List Negation
  clause : Clause

/-- A conjunction between two spaces, with further blanks around. -/
structure Joint where
  before : Blanks
  word : Keyword "and"
  after : Blanks

/-- A media type and its conjunction. -/
structure MediaType where
  name : String
  known : name ∈ Query.mediaTypes
  word : Keyword name
  before : Gap
  conjunction : Keyword "and"
  after : Gap

/-- Terms that all have to hold, maybe after a media type. -/
structure Alternative where
  mediaType : Option MediaType
  first : Term
  others : List (Joint × Term)

/-- A comma with blanks around. -/
structure Comma where
  before : Blanks
  after : Blanks

end Written

/-- A query as it is written. There may be a comma at its end, with blanks before it. -/
structure Written where
  before : Written.Blanks
  first : Written.Alternative
  others : List (Written.Comma × Written.Alternative)
  trailing : Option Written.Blanks
  after : Written.Blanks

namespace Written

open Breakpoint.Text

/-- The text of members with separators between them. -/
def joined {σ μ : Type} (separator : σ → Text) (member : μ → Text) (first : μ)
    (others : List (σ × μ)) : Text :=
  member first ++ others.flatMap fun other => separator other.1 ++ member other.2

/-- The members after one another. -/
def members {σ μ : Type} (first : μ) (others : List (σ × μ)) : List μ :=
  first :: others.map (·.2)

def Negation.text (negation : Negation) : Text := negation.word.text ++ negation.gap.text

def Clause.text (clause : Clause) : Text := .char '(' :: clause.content ++ [.char ')']

def Term.text (term : Term) : Text := term.negations.flatMap (·.text) ++ term.clause.text

/-- The conjunction of a joint and the two spaces that belong to it. -/
def Joint.delimiter (joint : Joint) : Text :=
  .char ' ' :: (joint.word.text ++ [.char ' '])

def Joint.text (joint : Joint) : Text :=
  joint.before.text ++ joint.delimiter ++ joint.after.text

def MediaType.text (type : MediaType) : Text :=
  type.word.text ++ (type.before.text ++ (type.conjunction.text ++ type.after.text))

/-- The text of an alternative's media type, if it has one. -/
def Alternative.lead (alternative : Alternative) : Text :=
  alternative.mediaType.elim [] (·.text)

/-- The text of an alternative after its media type. -/
def Alternative.body (alternative : Alternative) : Text :=
  joined Joint.text Term.text alternative.first alternative.others

def Alternative.text (alternative : Alternative) : Text := alternative.lead ++ alternative.body

def Comma.text (comma : Comma) : Text := comma.before.text ++ .char ',' :: comma.after.text

/-- The text of a trailing comma, if there is one. -/
def trail (trailing : Option Blanks) : Text :=
  trailing.elim [] fun blanks => blanks.text ++ [.char ',']

/-- The text of a query. -/
def text (query : Written) : Text :=
  query.before.text ++ (joined Comma.text Alternative.text query.first query.others ++
    trail query.trailing) ++ query.after.text

def Term.tree (term : Term) : Query :=
  Query.negated term.negations.length (.feature term.clause.feature)

def Alternative.tree (alternative : Alternative) : Query :=
  Query.joinLeft .conj ((members alternative.first alternative.others).map Term.tree)

/-- The tree of a query: its alternatives joined to the left, each of them its terms joined to
the left, each of them its feature under as many negations as are written. -/
def tree (query : Written) : Query :=
  Query.joinLeft .disj ((members query.first query.others).map Alternative.tree)

/-- The first member stands before the first separator. -/
theorem joined_cons {σ μ : Type} (separator : σ → Text) (member : μ → Text) (first next : μ)
    (between : σ) (others : List (σ × μ)) :
    joined separator member first ((between, next) :: others) =
      member first ++ (separator between ++ joined separator member next others) := by
  rw [joined, List.flatMap_cons, joined, List.append_assoc (separator between)]

/-- What holds of the code points of all members and separators holds of those of the whole. -/
theorem forall_mem_joined {σ μ : Type} {separator : σ → Text} {member : μ → Text}
    {holds : CodePoint → Prop} (hseparator : ∀ between, ∀ c ∈ separator between, holds c)
    (hmember : ∀ part, ∀ c ∈ member part, holds c) (first : μ) (others : List (σ × μ)) :
    ∀ c ∈ joined separator member first others, holds c := by
  intro c hc
  rcases List.mem_append.1 hc with hfirst | hothers
  · exact hmember first c hfirst
  · obtain ⟨other, -, hother⟩ := List.mem_flatMap.1 hothers
    rcases List.mem_append.1 hother with hbetween | hpart
    · exact hseparator other.1 c hbetween
    · exact hmember other.2 c hpart

/-! ## The code points of the parts -/

/-- A blank is no letter and no mark of the grammar. -/
theorem ne_of_isBlank {c : CodePoint} (h : isBlank c = true) :
    c ≠ .char '(' ∧ c ≠ .char ')' ∧ c ≠ .char ',' ∧ c ≠ .char 'a' := by
  refine ⟨?_, ?_, ?_, ?_⟩
  all_goals
    intro hsame
    subst hsame
    cases h

/-- A letter is no mark of the grammar. -/
theorem ne_of_isLetter {c : CodePoint} (h : IsLetter c) :
    c ≠ .char '(' ∧ c ≠ .char ')' ∧ c ≠ .char ',' := by
  refine ⟨?_, ?_, ?_⟩
  all_goals
    intro hsame
    subst hsame
    exact absurd h (by decide)

/-- Blanks are plain. -/
theorem Blanks.isPlain (blanks : Blanks) : ∀ c ∈ blanks.text, IsPlain c :=
  fun c hc => .inr (blanks.blank c hc)

/-- The keywords are words of small letters. -/
theorem isLower_keywords : ∀ word ∈ "not" :: "and" :: Query.mediaTypes,
    ∀ letter ∈ word.toList, letter.isLower = true := by
  have hall : ∀ word ∈ "not" :: "and" :: Query.mediaTypes,
      word.toList.all Char.isLower = true := by decide
  intro word hword
  exact List.all_eq_true.1 (hall word hword)

/-- A keyword is written in letters. -/
theorem Keyword.isLetter {word : String} (keyword : Keyword word)
    (hknown : word ∈ "not" :: "and" :: Query.mediaTypes) : ∀ c ∈ keyword.text, IsLetter c :=
  isLetter_of_spells keyword.spells (isLower_keywords word hknown)

/-- The text between the parentheses of a clause has none. -/
theorem Clause.unopened (clause : Clause) : .char '(' ∉ clause.content := by
  intro hmember
  have hblank : isBlank (.char '(') = false := by decide
  have hstart : .char '(' ∈ (clause.content.dropWhile isBlank).reverse :=
    List.mem_reverse.2 (Query.mem_dropWhile hblank hmember)
  have htrim : .char '(' ∈ trim clause.content :=
    List.mem_reverse.2 (Query.mem_dropWhile hblank hstart)
  exact Query.not_mem_of_feature? clause.accepted htrim

/-- There is something between the parentheses of a clause. -/
theorem Clause.content_ne_nil (clause : Clause) : clause.content ≠ [] := by
  intro hempty
  have hnone : Query.feature? (trim []) = none := by decide
  have haccepted := clause.accepted
  rw [hempty, hnone] at haccepted
  cases haccepted

/-- A clause is plain. -/
theorem Clause.isPlain (clause : Clause) : ∀ c ∈ clause.text, IsPlain c := by
  rw [Clause.text]
  intro c hc
  rw [List.mem_append, List.mem_cons, List.mem_singleton] at hc
  rcases hc with (hopen | hcontent) | hclose
  · subst hopen
    exact .inl (by decide)
  · exact .inl (clause.ascii c hcontent)
  · subst hclose
    exact .inl (by decide)

/-- A negation is plain. -/
theorem Negation.isPlain (negation : Negation) : ∀ c ∈ negation.text, IsPlain c := by
  intro c hc
  rcases List.mem_append.1 hc with hword | hgap
  · exact isPlain_of_isLetter (negation.word.isLetter (by simp) c hword)
  · exact negation.gap.isPlain c hgap

/-- A term is plain. -/
theorem Term.isPlain (term : Term) : ∀ c ∈ term.text, IsPlain c := by
  intro c hc
  rcases List.mem_append.1 hc with hnegations | hclause
  · obtain ⟨negation, -, hnegation⟩ := List.mem_flatMap.1 hnegations
    exact negation.isPlain c hnegation
  · exact term.clause.isPlain c hclause

/-- What joins two terms is plain. -/
theorem Joint.isPlain (joint : Joint) : ∀ c ∈ joint.text, IsPlain c := by
  have hspace : IsPlain (.char ' ') := .inl (by decide)
  intro c hc
  simp only [Joint.text, Joint.delimiter, List.mem_append, List.mem_cons, List.not_mem_nil,
    or_false] at hc
  rcases hc with (hbefore | hspaceBefore | hword | hspaceAfter) | hafter
  · exact joint.before.isPlain c hbefore
  · exact hspaceBefore ▸ hspace
  · exact isPlain_of_isLetter (joint.word.isLetter (by simp) c hword)
  · exact hspaceAfter ▸ hspace
  · exact joint.after.isPlain c hafter

/-- An alternative is plain between its blanks. -/
theorem Alternative.isPlain_body (alternative : Alternative) :
    ∀ c ∈ alternative.body, IsPlain c :=
  forall_mem_joined Joint.isPlain Term.isPlain _ _

/-! ## Where terms begin and end -/

/-- The text begins like a term: with a parenthesis, or with the first letter of a negation. -/
def BeginsTerm : Text → Prop
  | [] => False
  | c :: _ => c = .char '(' ∨ isAsciiSpelling 'n' c = true

/-- What begins like a term does so with more after it. -/
theorem BeginsTerm.append {text : Text} (h : BeginsTerm text) (rest : Text) :
    BeginsTerm (text ++ rest) := by
  cases text with
  | nil => exact h.elim
  | cons c text => exact h

/-- A term begins like one. -/
theorem Term.beginsTerm (term : Term) : BeginsTerm term.text := by
  obtain ⟨negations, clause⟩ := term
  cases negations with
  | nil => exact .inl rfl
  | cons negation negations =>
    obtain ⟨⟨word, hspells⟩, gap⟩ := negation
    cases hspells with
    | cons hletter hrest => exact .inr hletter

/-- An alternative without its media type begins like a term. -/
theorem Alternative.beginsTerm (alternative : Alternative) : BeginsTerm alternative.body :=
  alternative.first.beginsTerm.append _

namespace BeginsTerm

variable {text : Text}

/-- What begins like a term is not empty. -/
theorem ne_nil (h : BeginsTerm text) : text ≠ [] := by
  intro hempty
  subst hempty
  exact h

/-- A term begins with no blank. -/
theorem head (h : BeginsTerm text) : EndsBlankless text.head? := by
  cases text with
  | nil => exact h.elim
  | cons first rest =>
    intro c hc
    cases hc
    rcases h with hopen | hletter
    · subst hopen
      decide
    · exact isBlank_of_isLetter (isLetter_of_isAsciiSpelling (by decide) hletter)

/-- No media type is split off where a term begins. -/
theorem stripSpelling_eq_none (h : BeginsTerm text) {letter : Char} {word : List Char}
    (hother : letter ∈ ['s', 'a', 'p']) :
    stripSpelling isWideSpelling (letter :: word) text = none := by
  cases text with
  | nil => rfl
  | cons c rest =>
    rcases h with hopen | hletter
    · have hne : letter ≠ '(' := by
        intro hsame
        subst hsame
        exact absurd hother (by decide)
      rw [hopen, stripSpelling, if_neg (by simp [Query.isWideSpelling_parenthesis hne])]
    · have hlower : ['s', 'a', 'p'].all Char.isLower = true := by decide
      have hne : letter ≠ 'n' := by
        intro hsame
        subst hsame
        exact absurd hother (by decide)
      exact Text.stripSpelling_eq_none (by decide) (List.all_eq_true.1 hlower letter hother) hne
        hletter word

/-- No media type with a conjunction stands where a term begins. -/
theorem afterMediaType? (h : BeginsTerm text) : Query.afterMediaType? text = none := by
  have hword : Query.firstWord? isWideSpelling Query.mediaTypes text = none := by
    rw [Query.firstWord?, List.findSome?_eq_none_iff]
    have hwords : ∀ word ∈ Query.mediaTypes, ∃ letter ∈ ['s', 'a', 'p'], ∃ rest,
        word.toList = letter :: rest := by
      simp [Query.mediaTypes]
    intro word hknown
    obtain ⟨letter, hletter, rest, hlist⟩ := hwords word hknown
    rw [hlist, h.stripSpelling_eq_none hletter, Option.map_none]
  rw [Query.afterMediaType?, hword]
  rfl

/-- What begins like a term is no media type. -/
theorem isMediaType (h : BeginsTerm text) : Query.isMediaType text = false := by
  have hstrip : ∀ letter ∈ ['s', 'a', 'p'], ∀ word : List Char,
      stripSpelling isWideSpelling (letter :: word) text = none :=
    fun letter hletter word => h.stripSpelling_eq_none hletter
  simp [Query.isMediaType, Query.mediaTypes, hstrip]

end BeginsTerm

/-- A clause ends with its closing parenthesis. -/
theorem Clause.getLast? (clause : Clause) : clause.text.getLast? = some (.char ')') := by
  rw [Clause.text, List.getLast?_append, List.getLast?_singleton]
  rfl

/-- A list of terms ends with a parenthesis. -/
theorem Term.getLast? (term : Term) : term.text.getLast? = some (.char ')') := by
  rw [Term.text, List.getLast?_append, Clause.getLast?]
  rfl

/-- An alternative ends with a closing parenthesis. -/
theorem Alternative.getLast?_body (alternative : Alternative) :
    alternative.body.getLast? = some (.char ')') := by
  rw [Alternative.body]
  obtain ⟨mediaType, first, others⟩ := alternative
  dsimp only
  induction others generalizing first with
  | nil =>
    rw [joined, List.flatMap_nil, List.append_nil]
    exact first.getLast?
  | cons other others ih =>
    obtain ⟨joint, next⟩ := other
    rw [joined_cons, List.getLast?_append, List.getLast?_append, ih]
    rfl

/-- A parenthesis at the end is no blank. -/
theorem endsBlankless_parenthesis : EndsBlankless (some (.char ')')) := by
  intro c hc
  cases hc
  decide

/-- A term does not end with a blank. -/
theorem Term.endsBlankless (term : Term) : EndsBlankless term.text.getLast? :=
  term.getLast? ▸ endsBlankless_parenthesis

/-- An alternative does not end with a blank of its own. -/
theorem Alternative.endsBlankless_body (alternative : Alternative) :
    EndsBlankless alternative.body.getLast? :=
  alternative.getLast?_body ▸ endsBlankless_parenthesis

end Written

end Breakpoint
