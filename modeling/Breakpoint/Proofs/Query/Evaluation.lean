import Breakpoint.Proofs.Query.Chains
import Breakpoint.Proofs.Query.Pieces

/-!
# Queries that were read have answers

To evaluate a query fails only where a length is compared with text that is no number. What was
read from text compares lengths and ratios with numbers and all other features with keywords, so
a query that was read has an answer for every size, whatever is overridden.
-/

namespace Breakpoint

/-- A feature that is compared with a number, or that is told by keywords. -/
def Feature.IsAnswerable (test : Feature) : Prop :=
  (∃ value, test.operand = .number value) ∨
    ∃ feature ∈ keywordFeatures, test.name = Text.ofString feature.1

namespace Query

/-- A query of answerable features. -/
def IsAnswerable (query : Query) : Prop := ∀ test ∈ query.features, test.IsAnswerable

/-! ## Reading -/

/-- The feature that a text writes is answerable. -/
theorem isAnswerable_of_feature? {text : Text} {test : Feature} (h : feature? text = some test) :
    test.IsAnswerable := by
  rw [feature?, Option.or_eq_some_iff, Option.or_eq_some_iff] at h
  rcases h with h | ⟨-, h | ⟨-, h⟩⟩
  · simp only [dimension?, Option.bind_eq_bind, Option.bind_eq_some_iff] at h
    obtain ⟨_, -, _, -, _, -, h⟩ := h
    split at h
    · cases h
      exact .inl ⟨_, rfl⟩
    · cases h
  · simp only [aspectRatio?, Option.bind_eq_bind, Option.bind_eq_some_iff] at h
    obtain ⟨_, -, _, -, h⟩ := h
    split at h
    · split at h
      · cases h
      · cases h
        exact .inl ⟨_, rfl⟩
    · cases h
  · obtain ⟨feature, hfeature, h⟩ := List.exists_of_findSome?_eq_some h
    simp only [keyword?, Option.bind_eq_bind, Option.bind_eq_some_iff] at h
    obtain ⟨_, -, _, -, h⟩ := h
    split at h
    · cases h
      exact .inr ⟨feature, hfeature, rfl⟩
    · cases h

/-- The tree of a query is answerable. -/
theorem isAnswerable_of_parse? {text : Text} {query : Query} (h : parse? text = some query) :
    query.IsAnswerable := by
  intro test htest
  obtain ⟨piece, -, hwrites⟩ := writesFeature_of_parse (parse?_eq_some_iff.1 h) test htest
  exact isAnswerable_of_feature? hwrites

/-! ## Evaluating -/

/-- An answerable feature has an answer. -/
theorem holdsFeature_isOk {test : Feature} (h : test.IsAnswerable) (surroundings : Surroundings) :
    ∃ isMatch, holdsFeature test surroundings = .ok isMatch := by
  rcases h with ⟨value, hvalue⟩ | ⟨feature, hfeature, hname⟩
  · have hnumber : test.operand.toFloat = .ok value := by rw [hvalue, Operand.toFloat]
    rw [holdsFeature, hnumber]
    split
    · exact ⟨_, rfl⟩
    · split
      · exact ⟨_, rfl⟩
      · split
        · exact ⟨_, rfl⟩
        · split
          · exact ⟨_, rfl⟩
          · split <;> exact ⟨_, rfl⟩
  · have hunsized : ∀ feature ∈ keywordFeatures, Text.ofString feature.1 ≠ "width" ∧
        Text.ofString feature.1 ≠ "height" ∧ Text.ofString feature.1 ≠ "aspect-ratio" := by decide
    obtain ⟨hwidth, hheight, hratio⟩ := hunsized feature hfeature
    rw [holdsFeature, hname, if_neg hwidth, if_neg hheight, if_neg hratio]
    split
    · exact ⟨_, rfl⟩
    · split <;> exact ⟨_, rfl⟩

/-- An answerable query has an answer. -/
theorem holds_isOk {query : Query} (h : query.IsAnswerable) (surroundings : Surroundings) :
    ∃ isMatch, holds surroundings query = .ok isMatch := by
  induction query with
  | absent => exact ⟨false, rfl⟩
  | feature test => exact holdsFeature_isOk (h test List.mem_cons_self) surroundings
  | neg operand ih =>
    obtain ⟨isMatch, hoperand⟩ := ih h
    rw [holds, hoperand]
    exact ⟨!isMatch, rfl⟩
  | conj left right ihLeft ihRight =>
    rw [IsAnswerable, features, List.forall_mem_append] at h
    obtain ⟨isMatch, hleft⟩ := ihLeft h.1
    rw [holds, hleft]
    cases isMatch with
    | true => exact ihRight h.2
    | false => exact ⟨false, rfl⟩
  | disj left right ihLeft ihRight =>
    rw [IsAnswerable, features, List.forall_mem_append] at h
    obtain ⟨isMatch, hleft⟩ := ihLeft h.1
    rw [holds, hleft]
    cases isMatch with
    | true => exact ⟨true, rfl⟩
    | false => exact ihRight h.2

/-- A query that was read has an answer. -/
theorem evaluate_isOk {text : Text} {query : Query} (h : ReadsAs text (some query))
    (surroundings : Surroundings) : ∃ isMatch, query.evaluate surroundings = .ok isMatch := by
  rw [evaluate, evaluateWithin_eq_holds (Nat.le_refl _)]
  exact holds_isOk (isAnswerable_of_parse? (readsAs_iff.1 h).symm) surroundings

end Query

end Breakpoint
