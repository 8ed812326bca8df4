import Breakpoint.Query.Evaluate

/-!
# Chain by chain as along the tree

Evaluation counts the negations around a query and asks the members of a chain one after the
other, while the plain reading of a query follows its tree. Both have the same outcome for every
query, whatever it holds: the same answer, and where some feature has no answer, the same fault.
-/

namespace Breakpoint.Query

variable {surroundings : Surroundings}

/-! ## Negations -/

/-- An even number of negations changes nothing, and an odd number is one. -/
theorem holds_eq_map_stripNegations (query : Query) :
    holds surroundings query =
      (holds surroundings (stripNegations query).2).map (· != (stripNegations query).1) := by
  induction query with
  | neg operand ih =>
    have hstrip : stripNegations (.neg operand) =
        (!(stripNegations operand).1, (stripNegations operand).2) := rfl
    rw [holds, ih, hstrip]
    cases holds surroundings (stripNegations operand).2 with
    | error fault => rfl
    | ok isMatch => cases isMatch <;> cases (stripNegations operand).1 <;> rfl
  | _ =>
    simp only [stripNegations, Bool.bne_false]
    cases holds surroundings _ <;> rfl

/-- A query is no shorter than what stands under its negations. -/
theorem size_stripNegations_le (query : Query) : (stripNegations query).2.size ≤ query.size := by
  induction query with
  | neg operand ih => exact Nat.le_trans ih (Nat.le_succ _)
  | _ => exact Nat.le_refl _

/-- What stands under all negations is no negation. -/
theorem stripNegations_ne_neg (query operand : Query) : (stripNegations query).2 ≠ .neg operand := by
  induction query with
  | neg inner ih => exact ih
  | _ => exact Query.noConfusion

/-! ## Chains -/

/-- To ask the members of a chain of conjunctions is to ask the chain and then the others. -/
theorem allPass_conjuncts (query : Query) (others : List Query) :
    allPass (holds surroundings) (conjuncts query others) =
      (do if ← holds surroundings query then allPass (holds surroundings) others else return false) := by
  induction query generalizing others with
  | conj left right ihLeft _ =>
    rw [conjuncts, ihLeft, holds]
    cases holds surroundings left with
    | error fault => rfl
    | ok isMatch => cases isMatch <;> rfl
  | _ => rfl

/-- To ask the members of a chain of disjunctions is to ask the chain and then the others. -/
theorem somePasses_disjuncts (query : Query) (others : List Query) :
    somePasses (holds surroundings) (disjuncts query others) =
      (do if ← holds surroundings query then return true else somePasses (holds surroundings) others) := by
  induction query generalizing others with
  | disj left right ihLeft _ =>
    rw [disjuncts, ihLeft, holds]
    cases holds surroundings left with
    | error fault => rfl
    | ok isMatch => cases isMatch <;> rfl
  | _ => rfl

/-- A chain of conjunctions is longer than each of its members. -/
theorem size_le_of_mem_conjuncts {query member : Query} {others : List Query}
    (h : member ∈ conjuncts query others) : member.size ≤ query.size ∨ member ∈ others := by
  induction query generalizing others with
  | conj left right ihLeft _ =>
    rw [size]
    rcases ihLeft h with hleft | hothers
    · exact .inl (by omega)
    · rcases List.mem_cons.1 hothers with rfl | hother
      · exact .inl (by omega)
      · exact .inr hother
  | _ =>
    rcases List.mem_cons.1 h with rfl | hother
    · exact .inl (Nat.le_refl _)
    · exact .inr hother

/-- A chain of disjunctions is longer than each of its members. -/
theorem size_le_of_mem_disjuncts {query member : Query} {others : List Query}
    (h : member ∈ disjuncts query others) : member.size ≤ query.size ∨ member ∈ others := by
  induction query generalizing others with
  | disj left right ihLeft _ =>
    rw [size]
    rcases ihLeft h with hleft | hothers
    · exact .inl (by omega)
    · rcases List.mem_cons.1 hothers with rfl | hother
      · exact .inl (by omega)
      · exact .inr hother
  | _ =>
    rcases List.mem_cons.1 h with rfl | hother
    · exact .inl (Nat.le_refl _)
    · exact .inr hother

/-! ## Evaluation -/

section Asking

variable {α : Type} {first second : α → Except Fault Bool} {members : List α}

/-- Members are asked for their answers and for nothing else. -/
theorem allPass_congr (h : ∀ member ∈ members, first member = second member) :
    allPass first members = allPass second members := by
  induction members with
  | nil => rfl
  | cons member rest ih =>
    rw [List.forall_mem_cons] at h
    rw [allPass, allPass, h.1, ih h.2]

/-- Whether some member passes depends on what each of them does. -/
theorem somePasses_congr (h : ∀ member ∈ members, first member = second member) :
    somePasses first members = somePasses second members := by
  induction members with
  | nil => rfl
  | cons member rest ih =>
    rw [List.forall_mem_cons] at h
    rw [somePasses, somePasses, h.1, ih h.2]

/-- To ask a single member is to ask it alone. -/
theorem allPass_singleton (passes : α → Except Fault Bool) (member : α) :
    allPass passes [member] = passes member := by
  rw [allPass]
  cases passes member with
  | error fault => rfl
  | ok isMatch => cases isMatch <;> rfl

/-- Of one member, some pass exactly if it does. -/
theorem somePasses_singleton (passes : α → Except Fault Bool) (member : α) :
    somePasses passes [member] = passes member := by
  rw [somePasses]
  cases passes member with
  | error fault => rfl
  | ok isMatch => cases isMatch <;> rfl

end Asking

/-- A bound that the length of the query does not exceed is none. -/
theorem evaluateWithin_eq_holds {bound : Nat} {query : Query} (h : query.size ≤ bound) :
    evaluateWithin surroundings bound query = holds surroundings query := by
  induction bound generalizing query with
  | zero => cases query <;> simp [size] at h
  | succ bound ih =>
    have hcore := Nat.le_trans (size_stripNegations_le query) h
    have hbare := stripNegations_ne_neg query
    rw [evaluateWithin, holds_eq_map_stripNegations]
    generalize stripNegations query = stripped at hcore hbare ⊢
    obtain ⟨odd, core⟩ := stripped
    dsimp only at hcore hbare ⊢
    congr 1
    cases core with
    | absent => rfl
    | feature test => rfl
    | neg operand => exact absurd rfl (hbare operand)
    | conj left right =>
      rw [size] at hcore
      have hmembers : ∀ member ∈ conjuncts left [right],
          evaluateWithin surroundings bound member = holds surroundings member := by
        intro member hmember
        apply ih
        rcases size_le_of_mem_conjuncts hmember with hleft | hright
        · omega
        · cases List.mem_singleton.1 hright
          omega
      dsimp only
      rw [allPass_congr hmembers, allPass_conjuncts, allPass_singleton, holds]
    | disj left right =>
      rw [size] at hcore
      have hmembers : ∀ member ∈ disjuncts left [right],
          evaluateWithin surroundings bound member = holds surroundings member := by
        intro member hmember
        apply ih
        rcases size_le_of_mem_disjuncts hmember with hleft | hright
        · omega
        · cases List.mem_singleton.1 hright
          omega
      dsimp only
      rw [somePasses_congr hmembers, somePasses_disjuncts, somePasses_singleton, holds]

end Breakpoint.Query
