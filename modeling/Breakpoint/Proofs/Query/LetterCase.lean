import Breakpoint.Proofs.Query.Respelled

/-!
# Letter case makes no difference

Words are matched in either case, conjunctions are found in the lower case of a text, and names and
keywords are kept in lower case. So a query is read like its ASCII lower case, and two queries that
differ in the case of ASCII letters only are read alike, whether they can be read or not.
-/

namespace Breakpoint

namespace Text

/-- What is in lower case is its own lower case. -/
theorem lowerPlain_lowerPlain (c : CodePoint) : lowerPlain (lowerPlain c) = lowerPlain c := by
  rcases lowerPlain_eq_or c with hsame | ⟨hcapital, hval⟩
  · exact congrArg lowerPlain hsame
  · apply lowerPlain_of_not_capital
    omega

/-- Lower case is another spelling of a text. -/
theorem isRespelling_lowerPlain : IsRespelling lowerPlain where
  blank c := by
    rcases lowerPlain_eq_or c with hsame | ⟨hcapital, hval⟩
    · rw [hsame]
    · have hnone : ∀ {point : CodePoint}, 65 ≤ point.val → isAsciiBlank point = false := by
        intro point hpoint
        simp only [isAsciiBlank, Bool.or_eq_false_iff, beq_eq_false_iff_ne, Bool.and_eq_false_iff,
          decide_eq_false_iff_not]
        omega
      rw [hnone hcapital.1, hnone (by omega)]
  letter c _ := lowerPlain_lowerPlain c

end Text

namespace Query

open Breakpoint.Text

variable {text query first second : Text}

/-- The conjunctions of a text are found at the same places in its lower case. -/
theorem isSteady_lowerPlain (hdotted : .char 'İ' ∉ text) : IsSteady lowerPlain text := by
  have hother : .char 'İ' ∉ text.map lowerPlain :=
    fun hmember => hdotted ((dotted_mem_iff isRespelling_lowerPlain).1 hmember)
  have hshadow : (text.map lowerPlain).map lowerPlain = text.map lowerPlain := by
    rw [List.map_map]
    exact List.map_congr_left fun c _ => lowerPlain_lowerPlain c
  rw [IsSteady, splitTopLevel_conjunction hother, splitTopLevel_conjunction hdotted, hshadow]
  exact splitFrom_map isRespelling_lowerPlain _ _ _ _ [] _ text

/-- The dotted capital I stands in no alternative if it does not stand in the query. -/
theorem notMem_alternatives (hdotted : .char 'İ' ∉ query) :
    ∀ alternative ∈ alternatives query, .char 'İ' ∉ alternative := by
  rw [alternatives]
  split
  · next parts hparts =>
    rw [List.forall_mem_map]
    exact fun part hpart => notMem_working (notMem_part hdotted hparts hpart)
  · exact List.forall_mem_singleton.2 (notMem_working hdotted)

/-- A query without the dotted capital I is read like its lower case. -/
theorem parse?_map_lowerPlain (hdotted : .char 'İ' ∉ query) :
    parse? (query.map lowerPlain) = parse? query := by
  apply parse?_map isRespelling_lowerPlain hdotted
  intro alternative halternative
  exact isSteady_lowerPlain (notMem_alternatives hdotted alternative halternative)

/-- Two ASCII queries of the same lower case are read alike: every reading of the one that ends gives
what a reading of the other gives, the same tree or none. -/
theorem readsAs_iff_of_lower_eq (hfirst : ∀ c ∈ first, c.val < 0x80)
    (hsecond : ∀ c ∈ second, c.val < 0x80) (hcase : lower first = lower second) (tree : Option Query) :
    ReadsAs first tree ↔ ReadsAs second tree := by
  have hdotless : ∀ {text : Text}, (∀ c ∈ text, c.val < 0x80) → .char 'İ' ∉ text :=
    fun hascii hmember => absurd (hascii _ hmember) (by decide)
  rw [lower_of_isPlain fun c hc => .inl (hfirst c hc),
    lower_of_isPlain fun c hc => .inl (hsecond c hc)] at hcase
  have hsame : parse? first = parse? second :=
    calc parse? first = parse? (first.map lowerPlain) := (parse?_map_lowerPlain (hdotless hfirst)).symm
      _ = parse? (second.map lowerPlain) := by rw [hcase]
      _ = parse? second := parse?_map_lowerPlain (hdotless hsecond)
  rw [readsAs_iff, readsAs_iff, hsame]

/-- A list of queries in mixed case is read like the same list in another mixture, and a unit that
is none is rejected in both mixtures. -/
theorem mixed_case_read_alike :
    let list : Query := .disj
      (.conj (.neg (.feature ⟨"hover", .exactly, .keyword "none"⟩))
        (.feature ⟨"pointer", .exactly, .keyword "fine"⟩))
      (.feature ⟨"width", .atLeast, .number 40⟩)
    ReadsAs "PRINT and NOT (HOVER: none) aNd (Pointer:FINE),(Min-width: 40EM)" (some list) ∧
      ReadsAs "print AND not (Hover: NONE) And (pointer:Fine),(min-WIDTH: 40eM)" (some list) ∧
      ReadsAs "(WIDTH: 40PT)" none ∧ ReadsAs "(width: 40pt)" none := by
  intro list
  have hlist : ReadsAs "print AND not (Hover: NONE) And (pointer:Fine),(min-WIDTH: 40eM)" (some list) :=
    ⟨4, [], rfl⟩
  have hunit : ReadsAs "(width: 40pt)" none := ⟨1, _, rfl⟩
  refine ⟨?_, hlist, ?_, hunit⟩
  · exact (readsAs_iff_of_lower_eq (by decide +kernel) (by decide +kernel) (by decide +kernel) _).2 hlist
  · exact (readsAs_iff_of_lower_eq (by decide +kernel) (by decide +kernel) (by decide +kernel) _).2 hunit

end Query

end Breakpoint
