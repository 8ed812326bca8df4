import Breakpoint.Proofs.Query.Respelled

/-!
# Spaces in place of other blanks

A conjunction is found between spaces only, so that a query may be cut where another blank becomes
a space. Each operand of a query that is read has one clause, with blanks after it: where the
operand ends can be told from its clause alone. So a query is read in two spellings only if it is
cut at the same places in both.
-/

namespace Breakpoint.Query

open Breakpoint.Text

/-- A text that ends with a clause and blanks after it, and has no clause before. -/
def IsOperand (text : Text) : Prop :=
  ∃ lead content trail, text = lead ++ .char '(' :: (content ++ .char ')' :: trail) ∧
    .char '(' ∉ lead ∧ .char ')' ∉ content ∧ ∀ c ∈ trail, isBlank c = true

/-- Nothing, or one blank and something that is none. -/
def Resumes (text : Text) : Prop :=
  text = [] ∨ ∃ blank first rest, text = blank :: first :: rest ∧ isBlank blank = true ∧
    isBlank first = false

/-- The text after the first clause and the blanks that come after it. -/
def beyondClause (text : Text) : Text :=
  (((text.dropWhile (· != .char '(')).dropWhile (· != .char ')')).drop 1).dropWhile isBlank

variable {respell : CodePoint → CodePoint} {text : Text}

/-! ## Where an operand ends -/

/-- What comes before the first occurrence of a mark is skipped. -/
theorem dropWhile_ne_mark {mark : CodePoint} {before : Text} (h : mark ∉ before) (rest : Text) :
    (before ++ mark :: rest).dropWhile (· != mark) = mark :: rest := by
  rw [List.dropWhile_append_of_pos (bne_of_notMem h), List.dropWhile_cons_of_neg (by simp)]

/-- After an operand all is beyond its clause but one blank. -/
theorem IsOperand.beyondClause {tail : Text} (h : IsOperand text) (htail : Resumes tail) :
    beyondClause (text ++ tail) = tail.drop 1 := by
  obtain ⟨lead, content, trail, rfl, hlead, hcontent, htrail⟩ := h
  have hclause : .char ')' ∉ .char '(' :: content := by
    rw [List.mem_cons, not_or]
    exact ⟨by decide, hcontent⟩
  have hblanks : (trail ++ tail).dropWhile isBlank = tail.drop 1 := by
    rw [List.dropWhile_append_of_pos htrail]
    rcases htail with rfl | ⟨blank, first, rest, rfl, hblank, hfirst⟩
    · rfl
    · rw [List.dropWhile_cons_of_pos hblank, List.dropWhile_cons_of_neg (by simp [hfirst]),
        List.drop_one, List.tail_cons]
  rw [Query.beyondClause, List.append_assoc, List.cons_append, dropWhile_ne_mark hlead,
    List.append_assoc, List.cons_append, ← List.cons_append, dropWhile_ne_mark hclause,
    List.drop_one, List.tail_cons, hblanks]

/-- What stands behind a clause is respelled with it. -/
theorem beyondClause_map (h : IsRespelling respell) (text : Text) :
    beyondClause (text.map respell) = (beyondClause text).map respell := by
  have hmark : ∀ mark, ¬ IsLetter mark → isAsciiBlank mark = false → ∀ c,
      (respell c != mark) = (c != mark) :=
    fun mark hletter hblank c => congrArg (!·) (h.beq_mark hletter hblank c)
  rw [beyondClause, beyondClause,
    IsRespelling.dropWhile_map (hmark (.char '(') (by decide) (by decide)),
    IsRespelling.dropWhile_map (hmark (.char ')') (by decide) (by decide)), ← List.map_drop,
    IsRespelling.dropWhile_map h.isBlank]

/-- Two resumptions are as long if they are behind their first code points. -/
theorem Resumes.length_eq {first second : Text} (hfirst : Resumes first) (hsecond : Resumes second)
    (h : (first.drop 1).length = (second.drop 1).length) : first.length = second.length := by
  rcases hfirst with rfl | ⟨_, _, _, rfl, -⟩
  · rcases hsecond with rfl | ⟨_, _, _, rfl, -⟩
    · rfl
    · cases h
  · rcases hsecond with rfl | ⟨_, _, _, rfl, -⟩
    · cases h
    · exact congrArg (· + 1) h

/-- Two operands that a text begins with in two spellings are equally long. -/
theorem IsOperand.eq_map {other tail otherTail : Text} (h : IsRespelling respell)
    (hoperand : IsOperand text) (hother : IsOperand other) (htail : Resumes tail)
    (hotherTail : Resumes otherTail) (hsame : (text ++ tail).map respell = other ++ otherTail) :
    other = text.map respell ∧ otherTail = tail.map respell := by
  have hbeyond := congrArg Query.beyondClause hsame
  rw [beyondClause_map h, hoperand.beyondClause htail, hother.beyondClause hotherTail] at hbeyond
  have hlength : tail.length = otherTail.length := by
    apply htail.length_eq hotherTail
    rw [← hbeyond, List.length_map]
  rw [List.map_append] at hsame
  obtain ⟨htext, htails⟩ := List.append_inj' hsame (by rw [List.length_map, hlength])
  exact ⟨htext.symm, htails.symm⟩

/-- A conjunction begins with one blank. -/
theorem resumes_of_conjunction {delimiter : Text} (rest : Text)
    (h : delimiter.map lowerPlain = Written.conjunction) : Resumes (delimiter ++ rest) := by
  right
  obtain ⟨blank, first, others, rfl⟩ :
      ∃ blank first others, delimiter = blank :: first :: others := by
    match delimiter, congrArg List.length h with
    | blank :: first :: others, _ => exact ⟨blank, first, others, rfl⟩
  obtain ⟨hspace, hletters⟩ := List.cons_eq_cons.1 h
  have hblank : blank = .char ' ' := (lowerPlain_eq_iff (by decide)).1 hspace
  have hfirst : isBlank first = false := by
    rw [Bool.eq_false_iff]
    intro hblank
    have hletter : lowerPlain first = .char 'a' := (List.cons_eq_cons.1 hletters).1
    rw [lowerPlain_of_isBlank hblank] at hletter
    rw [hletter] at hblank
    revert hblank
    decide
  exact ⟨blank, first, others ++ rest, rfl, by rw [hblank]; rfl, hfirst⟩

/-- A conjunction is not empty. -/
theorem append_ne_nil_of_conjunction {delimiter : Text} (rest : Text)
    (h : delimiter.map lowerPlain = Written.conjunction) : delimiter ++ rest ≠ [] := by
  intro hempty
  rw [(List.append_eq_nil_iff.1 hempty).1] at h
  cases h

/-- A text whose pieces are operands in two spellings has the same pieces in both. -/
theorem Cuts.eq_map (h : IsRespelling respell) {parts others : List Text}
    (hcuts : Cuts lowerPlain Written.conjunction text parts)
    (hotherCuts : Cuts lowerPlain Written.conjunction (text.map respell) others)
    (hparts : ∀ part ∈ parts, IsOperand part) (hothers : ∀ part ∈ others, IsOperand part) :
    others = parts.map (·.map respell) := by
  -- The first pieces are alike, and what comes after them is cut into the other pieces.
  induction hcuts generalizing others with
  | empty =>
    generalize hwhole : ([] : Text).map respell = whole at hotherCuts
    cases hotherCuts with
    | empty => rfl
    | last nonempty _ => exact absurd hwhole.symm nonempty
    | @cut other delimiter rest _ _ _ found _ =>
      have hnone := (List.append_eq_nil_iff.1 hwhole.symm).2
      exact absurd hnone (append_ne_nil_of_conjunction rest found)
  | @last piece nonempty _ =>
    have hpiece := hparts piece (List.mem_singleton_self piece)
    generalize hwhole : piece.map respell = whole at hotherCuts
    cases hotherCuts with
    | empty => exact absurd (List.map_eq_nil_iff.1 hwhole) nonempty
    | last => rw [← hwhole, List.map_singleton]
    | @cut other delimiter rest others _ _ found _ =>
      rw [← List.append_nil piece] at hwhole
      have hnone := (hpiece.eq_map h (hothers other List.mem_cons_self) (.inl rfl)
        (resumes_of_conjunction rest found) hwhole).2
      exact absurd hnone (append_ne_nil_of_conjunction rest found)
  | @cut piece delimiter rest parts _ _ found _ ih =>
    rw [List.forall_mem_cons] at hparts
    have htail := resumes_of_conjunction rest found
    have hresumed := append_ne_nil_of_conjunction rest found
    generalize hwhole : (piece ++ (delimiter ++ rest)).map respell = whole at hotherCuts
    cases hotherCuts with
    | empty =>
      exact absurd (List.append_eq_nil_iff.1 (List.map_eq_nil_iff.1 hwhole)).2 hresumed
    | last =>
      rw [List.forall_mem_singleton] at hothers
      rw [← List.append_nil whole] at hwhole
      have hnone := (hparts.1.eq_map h hothers htail (.inl rfl) hwhole).2
      exact absurd (List.map_eq_nil_iff.1 hnone.symm) hresumed
    | @cut other otherDelimiter otherRest others _ _ otherFound otherCuts =>
      rw [List.forall_mem_cons] at hothers
      have hotherTail := resumes_of_conjunction otherRest otherFound
      obtain ⟨rfl, htails⟩ := hparts.1.eq_map h hothers.1 htail hotherTail hwhole
      have hwidth : otherDelimiter.length = (delimiter.map respell).length := by
        rw [← List.length_map lowerPlain, otherFound, ← found, List.length_map, List.length_map]
      rw [List.map_append] at htails
      obtain ⟨-, rfl⟩ := List.append_inj htails hwidth
      rw [List.map_cons, ih otherCuts hparts.2 hothers.2]

/-! ## Operands that are read -/

/-- Something without clauses may stand before an operand, and blanks after it. -/
theorem IsOperand.around {before after : Text} (h : IsOperand text) (hbefore : .char '(' ∉ before)
    (hafter : ∀ c ∈ after, isBlank c = true) : IsOperand (before ++ (text ++ after)) := by
  obtain ⟨lead, content, trail, rfl, hlead, hcontent, htrail⟩ := h
  refine ⟨before ++ lead, content, trail ++ after, ?_, ?_, hcontent, ?_⟩
  · simp only [List.append_assoc, List.cons_append]
  · rw [List.mem_append, not_or]
    exact ⟨hbefore, hlead⟩
  · rw [List.forall_mem_append]
    exact ⟨htrail, hafter⟩

/-- A text is an operand if what is worked on is. -/
theorem IsOperand.of_working (h : IsOperand (dropMediaType (trim text))) : IsOperand text := by
  obtain ⟨before, after, htext, hbefore, hafter⟩ := exists_working text
  rw [htext]
  exact h.around (notMem_of_unmarked hbefore) hafter

/-- What is read and cut nowhere is an operand. -/
theorem isOperand_of_parse {tree : Query} (h : parse text = .ok tree)
    (hwhole : IsWhole (dropMediaType (trim text))) : IsOperand (dropMediaType (trim text)) := by
  refine parse_induction
    (fun text _ => IsWhole (dropMediaType (trim text)) → IsOperand (dropMediaType (trim text)))
    ?alternatives ?operands ?negations ?clause h hwhole
  case alternatives =>
    intro text parts trees hcuts _ hwhole
    rw [hwhole.comma] at hcuts
    cases hcuts
  case operands =>
    intro text parts trees _ hcuts _ hwhole
    rw [hwhole.conjunction] at hcuts
    cases hcuts
  case negations =>
    intro text count rest tree _ _ hstrip hrest hwhole
    obtain ⟨lead, hsplit, -, hlead⟩ := exists_stripNots hstrip
    have hbelow : IsOperand rest := .of_working (hrest (hwhole.of_stripNots hstrip).working)
    rw [hsplit, ← List.append_nil rest]
    exact hbelow.around (notMem_of_unmarked hlead) (List.forall_mem_nil _)
  case clause =>
    intro text tree _ _ hclause _
    rw [parseClause] at hclause
    split at hclause
    · next content hcontent =>
      obtain ⟨hclose, hsplit⟩ := eq_of_clause? hcontent
      exact ⟨[], content, [], hsplit, List.not_mem_nil, hclose, List.forall_mem_nil _⟩
    · split at hclause <;> cases hclause

/-- Parts are read together only if each of them is read. -/
theorem isSome_of_mapM {α β : Type} {read : α → Option β} {parts : List α}
    (h : (parts.mapM read).isSome = true) : ∀ part ∈ parts, (read part).isSome = true := by
  induction parts with
  | nil => exact List.forall_mem_nil _
  | cons part parts ih =>
    rw [List.mapM_cons] at h
    rw [List.forall_mem_cons]
    cases hfirst : read part with
    | none =>
      rw [hfirst] at h
      cases h
    | some first =>
      cases hrest : parts.mapM read with
      | none =>
        rw [hfirst, hrest] at h
        cases h
      | some rest => exact ⟨rfl, ih (by rw [hrest]; rfl)⟩

/-- The pieces between the conjunctions of an alternative that is read are operands. -/
theorem isOperand_of_isSome (h : (parse? text).isSome = true) (hdotted : .char 'İ' ∉ text)
    (hcomma : cuts? (dropMediaType (trim text)) "," false = none) :
    ∀ part ∈ splitTopLevel (dropMediaType (trim text)) " and " true, IsOperand part := by
  have hclear := notMem_working hdotted
  cases hparts : cuts? (dropMediaType (trim text)) " and " true with
  | none =>
    obtain ⟨tree, htree⟩ := Option.isSome_iff_exists.1 h
    have hwhole := IsWhole.of_cuts? hclear hcomma hparts
    rcases (cuts_conjunction hclear).eq_of_spares hwhole.spares with hnone | hone
    · rw [hnone]
      exact List.forall_mem_nil _
    · rw [hone, List.forall_mem_singleton]
      exact isOperand_of_parse (parse?_eq_some_iff.1 htree) hwhole
  | some parts =>
    have hsplit : splitTopLevel (dropMediaType (trim text)) " and " true = parts := by
      rw [cuts?] at hparts
      split at hparts
      · cases hparts
      · exact Option.some.inj hparts
    rw [parse?_of_operands hcomma hparts, Option.isSome_map] at h
    rw [hsplit]
    intro part hpart
    obtain ⟨tree, htree⟩ := Option.isSome_iff_exists.1 (isSome_of_mapM h part hpart)
    have hwhole := IsWhole.of_mem_operands hclear hcomma hparts hpart
    exact .of_working (isOperand_of_parse (parse?_eq_some_iff.1 htree) hwhole.working)

/-- An alternative that is read in two spellings is cut at the same places in both. -/
theorem isSteady_of_isSome (h : IsRespelling respell) (hdotted : .char 'İ' ∉ text)
    (hcomma : cuts? (dropMediaType (trim text)) "," false = none)
    (hread : (parse? text).isSome = true) (hotherRead : (parse? (text.map respell)).isSome = true) :
    IsSteady respell (dropMediaType (trim text)) := by
  have hclear := notMem_working hdotted
  have hotherClear : .char 'İ' ∉ (dropMediaType (trim text)).map respell :=
    fun hmember => hclear ((dotted_mem_iff h).1 hmember)
  have hothers :=
    isOperand_of_isSome hotherRead fun hmember => hdotted ((dotted_mem_iff h).1 hmember)
  rw [working_map h, cuts?_map (splitTopLevel_comma_map h _), hcomma, Option.map_none] at hothers
  exact (cuts_conjunction hclear).eq_map h (cuts_conjunction hotherClear)
    (isOperand_of_isSome hread hdotted hcomma) (hothers rfl)

/-- A query that is read in two spellings is cut at the same places in both. -/
theorem forall_isSteady (h : IsRespelling respell) {query : Text} (hdotted : .char 'İ' ∉ query)
    (hread : (parse? query).isSome = true)
    (hotherRead : (parse? (query.map respell)).isSome = true) :
    ∀ alternative ∈ alternatives query, IsSteady respell alternative := by
  rw [alternatives]
  cases hparts : cuts? (dropMediaType (trim query)) "," false with
  | none =>
    rw [List.forall_mem_singleton]
    exact isSteady_of_isSome h hdotted hparts hread hotherRead
  | some parts =>
    have hcuts := cuts?_map (splitTopLevel_comma_map h (dropMediaType (trim query)))
    rw [hparts, Option.map_some] at hcuts
    rw [parse?_of_cuts? rfl hparts, Option.isSome_map] at hread
    rw [parse?_of_cuts? (working_map h query) hcuts, Option.isSome_map] at hotherRead
    simp only [List.forall_mem_map]
    intro part hpart
    exact isSteady_of_isSome h (notMem_part hdotted hparts hpart) (cuts?_comma_of_mem hparts hpart)
      (isSome_of_mapM hread part hpart)
      (isSome_of_mapM hotherRead _ (List.mem_map_of_mem hpart))

/-! ## Spaces -/

/-- A space in place of any blank of ASCII text. -/
def spaceOut (c : CodePoint) : CodePoint := if isAsciiBlank c then .char ' ' else c

/-- The text with a space in place of each tab, newline or other blank of ASCII text. -/
def spaced (text : Text) : Text := text.map spaceOut

/-- To write spaces for other blanks is a respelling. -/
theorem isRespelling_spaceOut : IsRespelling spaceOut where
  blank c := by
    rw [spaceOut]
    split
    · next hblank => rw [hblank]; rfl
    · rfl
  letter c hblank := by rw [spaceOut, hblank]; rfl

/-- What a query with a tree says with a space in place of every blank. -/
theorem parse?_spaced {query : Text} {tree : Query} (hdotted : .char 'İ' ∉ query)
    (h : parse? query = some tree) :
    parse? (spaced query) =
      if ∀ alternative ∈ alternatives query, IsSteady spaceOut alternative then some tree
      else none := by
  split
  · next hsteady => rw [spaced, parse?_map isRespelling_spaceOut hdotted hsteady, h]
  · next hunsteady =>
    have hread : (parse? query).isSome = true := by rw [h]; rfl
    rw [← Option.not_isSome_iff_eq_none]
    exact fun hother => hunsteady (forall_isSteady isRespelling_spaceOut hdotted hread hother)

/-- A query that is read to a tree is read to the same tree with a space in place of every blank,
unless a space makes a conjunction where another blank made none. Then it is read to none. -/
theorem readsAs_spaced_iff {query : Text} {tree : Query} (hdotted : .char 'İ' ∉ query)
    (h : ReadsAs query (some tree)) (other : Option Query) :
    ReadsAs (spaced query) other ↔
      other = if ∀ alternative ∈ alternatives query, IsSteady spaceOut alternative then some tree
        else none := by
  rw [readsAs_iff, parse?_spaced hdotted (readsAs_iff.1 h).symm]

/-- Tabs and newlines where no conjunction is found. -/
theorem tabs_and_newlines_read_as_spaces :
    let tree : Query := .conj (.feature ⟨"hover", .exactly, .keyword "none"⟩)
      (.neg (.feature ⟨"pointer", .exactly, .keyword "fine"⟩))
    ReadsAs "screen\tand\n(hover:\tnone) and not\t(pointer: fine)" (some tree) ∧
      ReadsAs (spaced "screen\tand\n(hover:\tnone) and not\t(pointer: fine)") (some tree) := by
  intro tree
  have hread : ReadsAs "screen\tand\n(hover:\tnone) and not\t(pointer: fine)" (some tree) :=
    ⟨3, [], rfl⟩
  refine ⟨hread, (readsAs_spaced_iff (by decide +kernel) hread _).2 ?_⟩
  rw [if_pos (by decide +kernel)]

/-- After a negation, a media type with tabs around its conjunction is taken off, and with spaces
it is cut at the conjunction and not read. -/
theorem tabs_not_read_as_spaces :
    ¬ ∀ (query : Text) (tree : Query), (∀ c ∈ query, c.val < 0x80) → ReadsAs query (some tree) →
      ReadsAs (spaced query) (some tree) := by
  intro h
  have hread := h "not screen\tand\t(hover: none)"
    (.neg (.feature ⟨"hover", .exactly, .keyword "none"⟩)) (by decide +kernel) ⟨2, [], rfl⟩
  have hnone : ReadsAs (spaced "not screen\tand\t(hover: none)") none := ⟨3, _, rfl⟩
  cases (readsAs_iff.1 hread).trans (readsAs_iff.1 hnone).symm

end Breakpoint.Query
