import Breakpoint.Proofs.Query.Shape

/-!
# Where the features of a query stand

A text is read by its parts, down to the clauses. All that is taken apart on the way stands in the
text, so each feature of a query that was read is what some piece of the text writes. A text that is
cut has parts, so a query that was read lacks no node.
-/

namespace Breakpoint.Query

open Breakpoint.Text

/-- A piece of the text writes the feature. -/
def WritesFeature (text : Text) (test : Feature) : Prop :=
  ∃ piece, piece <:+: text ∧ feature? piece = some test

/-- A query that lacks no node. -/
def IsComplete : Query → Prop
  | .absent => False
  | .feature _ => True
  | .neg operand => operand.IsComplete
  | .conj left right => left.IsComplete ∧ right.IsComplete
  | .disj left right => left.IsComplete ∧ right.IsComplete

variable {text : Text} {tree : Query} {test : Feature}

/-- What a piece of a text writes, the text writes. -/
theorem WritesFeature.mono {piece : Text} (h : WritesFeature piece test) (hpiece : piece <:+: text) :
    WritesFeature text test := by
  obtain ⟨inner, hinner, hwrites⟩ := h
  exact ⟨inner, hinner.trans hpiece, hwrites⟩

/-- A clause is read as the feature that it writes. -/
theorem writesFeature_of_parseClause (h : parseClause text = .ok tree) :
    ∃ test, WritesFeature text test ∧ tree = .feature test := by
  rw [parseClause] at h
  split at h
  · next content hclause =>
    split at h
    · next test htest =>
      cases h
      have hcontent : content <:+: text := by
        rw [(eq_of_clause? hclause).2]
        exact (List.prefix_append _ _).isInfix.trans (List.suffix_cons _ _).isInfix
      exact ⟨test, ⟨trim content, (trim_isInfix content).trans hcontent, htest⟩, rfl⟩
    · cases h
  · split at h <;> cases h

/-- The features of a text that is read are written by pieces of the text. -/
theorem writesFeature_of_parse (h : parse text = .ok tree) :
    ∀ test ∈ tree.features, WritesFeature text test := by
  -- what the parts of a text write, the text writes
  have hparts : ∀ {text delimiter : Text} {ignoreCase} {parts : List Text} {trees : List Query},
      cuts? (dropMediaType (trim text)) delimiter ignoreCase = some parts →
      List.Forall₂ (fun part tree => ∀ test ∈ tree.features, WritesFeature part test) parts trees →
        ∀ test ∈ trees.flatMap features, WritesFeature text test := by
    intro text delimiter ignoreCase parts trees hcuts htrees test htest
    obtain ⟨tree, htree, hmember⟩ := List.mem_flatMap.1 htest
    obtain ⟨part, hpart, hwrites⟩ := exists_part htrees tree htree
    exact (hwrites test hmember).mono ((isInfix_of_mem_cuts? hcuts hpart).trans (isInfix_working text))
  refine parse_induction (fun text tree => ∀ test ∈ tree.features, WritesFeature text test)
    ?alternatives ?operands ?negations ?clause h
  case alternatives =>
    intro text parts trees hcuts htrees
    rw [features_joinLeft fun _ _ => rfl]
    exact hparts hcuts htrees
  case operands =>
    intro text parts trees _ hcuts htrees
    rw [features_joinLeft fun _ _ => rfl]
    exact hparts hcuts htrees
  case negations =>
    intro text count rest tree _ _ hstrip hrest test htest
    obtain ⟨lead, hlead, -⟩ := exists_stripNots hstrip
    have hsuffix : rest <:+ dropMediaType (trim text) := ⟨lead, hlead.symm⟩
    rw [features_negated] at htest
    exact (hrest test htest).mono (hsuffix.isInfix.trans (isInfix_working text))
  case clause =>
    intro text tree _ _ hclause test htest
    obtain ⟨found, hwrites, rfl⟩ := writesFeature_of_parseClause hclause
    cases List.mem_singleton.1 htest
    exact hwrites.mono (isInfix_working text)

/-- Negations add nothing that could be missing. -/
theorem IsComplete.negated (h : tree.IsComplete) (count : Nat) : (negated count tree).IsComplete := by
  induction count with
  | zero => exact h
  | succ count ih =>
    rw [negated_succ]
    exact ih

/-- A text that is read is read as a query that lacks no node. -/
theorem isComplete_of_parse (h : parse text = .ok tree) : tree.IsComplete := by
  refine parse_induction (fun _ tree => tree.IsComplete) ?alternatives ?operands ?negations ?clause h
  case alternatives =>
    intro text parts trees hcuts htrees
    exact chain_joinLeft (fun _ hmember => hmember) (fun _ _ hleft hright => ⟨hleft, hright⟩)
      (trees_ne_nil hcuts htrees) (forall_mem_trees htrees)
  case operands =>
    intro text parts trees _ hcuts htrees
    exact chain_joinLeft (fun _ hmember => hmember) (fun _ _ hleft hright => ⟨hleft, hright⟩)
      (trees_ne_nil hcuts htrees) (forall_mem_trees htrees)
  case negations =>
    intro text count rest tree _ _ _ hrest
    exact hrest.negated (count + 1)
  case clause =>
    intro text tree _ _ hclause
    obtain ⟨test, -, rfl⟩ := writesFeature_of_parseClause hclause
    exact trivial

end Breakpoint.Query
