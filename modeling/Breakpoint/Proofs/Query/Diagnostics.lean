import Breakpoint.Proofs.Query.Shape

/-!
# The diagnostic of a query that cannot be read

A text is cut, stripped and trimmed on its way down to the clauses, and each of these steps leaves a
piece of the text. So a fault that is found in a clause names a piece of the whole query, however
its parentheses stand, and the piece is trimmed since every clause is.
-/

namespace Breakpoint.Query

open Breakpoint.Text

variable {text : Text}

/-- A piece of a text without blanks at its ends. -/
structure IsTrimmedPiece (piece text : Text) : Prop where
  isInfix : piece <:+: text
  head : EndsBlankless piece.head?
  last : EndsBlankless piece.getLast?

/-- A piece of a piece is a piece of the whole. -/
theorem IsTrimmedPiece.mono {piece part : Text} (h : IsTrimmedPiece piece part)
    (hpart : part <:+: text) : IsTrimmedPiece piece text :=
  ⟨h.isInfix.trans hpart, h.head, h.last⟩

/-- A trimmed text is a trimmed piece of itself. -/
theorem isTrimmedPiece_trim (text : Text) : IsTrimmedPiece (trim text) text :=
  ⟨trim_isInfix text, (endsBlankless_trim text).1, (endsBlankless_trim text).2⟩

/-- The text without its outer blanks and its media type has no blanks at its ends. -/
theorem isTrimmedPiece_working (text : Text) : IsTrimmedPiece (dropMediaType (trim text)) text := by
  obtain ⟨lead, hlead, -, hhead⟩ := exists_dropMediaType (trim text)
  obtain ⟨hstart, hend⟩ := endsBlankless_trim text
  refine ⟨isInfix_working text, hhead hstart, ?_⟩
  intro c hc
  apply hend c
  rw [hlead, List.getLast?_append, hc, Option.some_or]

/-- Of parts that are not all read one has the fault. -/
theorem exists_of_mapM_error {α β ε : Type} {read : α → Except ε β} {parts : List α} {fault : ε}
    (h : parts.mapM read = .error fault) : ∃ part ∈ parts, read part = .error fault := by
  induction parts with
  | nil => cases h
  | cons part parts ih =>
    rw [List.mapM_cons] at h
    cases hfirst : read part with
    | error other =>
      rw [hfirst] at h
      cases h
      exact ⟨part, List.mem_cons_self, hfirst⟩
    | ok first =>
      cases hrest : parts.mapM read with
      | error other =>
        rw [hfirst, hrest] at h
        cases h
        obtain ⟨faulty, hmember, hfault⟩ := ih hrest
        exact ⟨faulty, List.mem_cons_of_mem _ hmember, hfault⟩
      | ok rest =>
        rw [hfirst, hrest] at h
        cases h

/-- What has a fault where its parts are put together has it in the parts. -/
theorem eq_error_of_map {α β ε : Type} {outcome : Except ε α} {join : α → β} {fault : ε}
    (h : outcome.map join = .error fault) : outcome = .error fault := by
  cases outcome with
  | error other =>
    cases h
    rfl
  | ok result => cases h

/-- The fault of a text is the fault of one of its clauses. -/
theorem exists_clause_of_parse_error {fault : ParseFault} (h : parse text = .error fault) :
    ∃ clause, IsTrimmedPiece clause text ∧ parseClause clause = .error fault := by
  induction hlength : text.length using Nat.strong_induction_on generalizing text with
  | _ length ih =>
    have hworking : (dropMediaType (trim text)).length ≤ length := hlength ▸ length_working_le text
    -- a shorter piece with the fault has a clause with the fault
    have hbelow : ∀ {part : Text}, part.length < (dropMediaType (trim text)).length →
        part <:+: dropMediaType (trim text) → parse part = .error fault →
        ∃ clause, IsTrimmedPiece clause text ∧ parseClause clause = .error fault := by
      intro part hshorter hpiece hpart
      obtain ⟨clause, hclause, hfault⟩ := ih _ (lt_of_lt_of_le hshorter hworking) hpart rfl
      exact ⟨clause, hclause.mono (hpiece.trans (isInfix_working text)), hfault⟩
    have hparts : ∀ {delimiter : Text} {ignoreCase} {parts : List Text} {join : List Query → Query},
        cuts? (dropMediaType (trim text)) delimiter ignoreCase = some parts →
        (parts.mapM parse).map join = .error fault →
        ∃ clause, IsTrimmedPiece clause text ∧ parseClause clause = .error fault := by
      intro delimiter ignoreCase parts join hcuts hfault
      obtain ⟨part, hpart, hfaulty⟩ := exists_of_mapM_error (eq_error_of_map hfault)
      exact hbelow (length_of_mem_cuts? hcuts hpart) (isInfix_of_mem_cuts? hcuts hpart) hfaulty
    rw [parse_eq, parseStep] at h
    split at h
    · next parts hcuts => exact hparts hcuts h
    · split at h
      · next parts hcuts => exact hparts hcuts h
      · split at h
        · next rest hstrip =>
          obtain ⟨lead, hlead, hempty, -⟩ := exists_stripNots hstrip
          rw [hempty.2 rfl, List.nil_append] at hlead
          rw [← hlead] at h
          exact ⟨_, isTrimmedPiece_working text, h⟩
        · next count rest hcount hstrip =>
          obtain ⟨fewer, rfl⟩ := Nat.exists_eq_succ_of_ne_zero hcount
          obtain ⟨lead, hlead, -⟩ := exists_stripNots hstrip
          have hsuffix : rest <:+ dropMediaType (trim text) := ⟨lead, hlead.symm⟩
          exact hbelow (length_of_stripNots hstrip) hsuffix.isInfix (eq_error_of_map h)

/-- The fault of a clause names a piece of the clause. -/
theorem isTrimmedPiece_of_parseClause {clause : Text} {fault : SyntaxFault}
    (hhead : EndsBlankless clause.head?) (hlast : EndsBlankless clause.getLast?)
    (h : parseClause clause = .error (.part fault)) :
    IsTrimmedPiece fault.fragment clause := by
  rw [parseClause] at h
  split at h
  · next content hclause =>
    split at h
    · cases h
    · cases h
      apply (isTrimmedPiece_trim content).mono
      rw [(eq_of_clause? hclause).2]
      exact (List.prefix_append _ _).isInfix.trans (List.suffix_cons _ _).isInfix
  · split at h
    · next hempty =>
      cases h
      rw [List.isEmpty_iff.1 hempty] at hhead hlast ⊢
      exact ⟨List.infix_rfl, hhead, hlast⟩
    · cases h
      exact ⟨List.infix_rfl, hhead, hlast⟩

/-- Every text is read without a record, or is rejected with one warning, unless it nests too deep for
the room of the stack, which then has no more room than for one reading for each code point. The
warning quotes the text and names a piece of it that neither begins nor ends with a blank. -/
theorem reads_or_names_piece (room : Nat) (text : Text) :
    (parseLogged room text = .error .tooDeep ∧ room ≤ text.length) ∨
    (∃ tree, parseLogged room text = .ok (some tree, [])) ∨
      ∃ fault, parseWithin room text = .error (.part fault) ∧
        parseLogged room text = .ok (none, [⟨.warning, .parser, "Unsupported media query " ++
          quoted text ++ ": " ++ fault.reason.text ++ " " ++ quoted fault.fragment, none⟩]) ∧
        fault.fragment <:+: text ∧
        EndsBlankless fault.fragment.head? ∧ EndsBlankless fault.fragment.getLast? := by
  cases hread : parseWithin room text with
  | ok tree =>
    right; left
    exact ⟨tree, by rw [parseLogged, hread]⟩
  | error fault =>
    cases fault with
    | tooDeep =>
      left
      refine ⟨by rw [parseLogged, hread], Nat.le_of_not_lt fun hless => ?_⟩
      exact parseWithin_ne_tooDeep hless hread
    | part fault =>
      right; right
      have hends : parseWithin room text ≠ .error .tooDeep := by
        intro hdeep
        cases hread.symm.trans hdeep
      have hparse : parse text = .error (.part fault) := by
        rw [← parseWithin_eq_parse hends, hread]
      obtain ⟨clause, hclause, hfault⟩ := exists_clause_of_parse_error hparse
      have hnamed := isTrimmedPiece_of_parseClause hclause.head hclause.last hfault
      have hpiece := hnamed.mono hclause.isInfix
      refine ⟨fault, rfl, ?_, hpiece.isInfix, hpiece.head, hpiece.last⟩
      rw [parseLogged, hread]
      rfl

end Breakpoint.Query
