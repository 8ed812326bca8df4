import Breakpoint.Proofs.Engine.Journal

/-!
# What a journal tells of a binding

A binding joins a handle at one place of the journal. Before it, its receiver was given one
answer; after it, the receiver is told of each dispatch of the handle. The ledger of a binding
compares what was delivered with the answers of the handle, change by change.

A change that falls before the binding joined is not told to it, so what was delivered then stays
the last word until the next dispatch.
-/

namespace Breakpoint

/-- An aside that is not about a binding. -/
def Entry.IsAsideFor (binding : Nat) : Entry → Prop
  | .called (.deliver bound _ _) | .bindingJoined bound _ => bound ≠ binding
  | entry => entry.IsAside

namespace Journal

variable {binding number : Nat} {recent older journal : Journal} {isMatch : Bool} {entry : Entry}

/-- An aside that is not about a binding is an aside. -/
theorem isAside_of_isAsideFor (h : entry.IsAsideFor binding) : entry.IsAside := by
  unfold Entry.IsAsideFor at h
  split at h <;> trivial

/-- The ledger of a binding whose journal is `journal`, split where it joined the handle of the
number, which answers `isMatch` now. -/
structure Ledger (binding number : Nat) (recent older journal : Journal) (isMatch : Bool) :
    Prop where
  /-- A handle that did not change since answers as it did then. -/
  answer : changes number recent = [] → (answers number older).head? = some isMatch
  /-- The receiver of a handle that did not change has heard nothing else since. -/
  unchanged : changes number recent = [] →
    (deliveries binding journal).head? = (deliveries binding older).head?
  /-- A binding that joined inside of a dispatch was given the answer that is dispatched. -/
  inside : changes number recent = [] → openDispatch journal = some number →
    (deliveries binding older).head? = some isMatch
  /-- After a dispatch since then the receiver knows the answer. -/
  changed : changes number recent ≠ [] → openDispatch journal ≠ some number →
    (deliveries binding journal).head? = some isMatch

/-- Outside of the dispatches of its handle, a binding is in sync exactly if the answer did not
change between its first delivery and its joining, or if it changed since. -/
theorem Ledger.inSync_iff (h : Ledger binding number recent older journal isMatch)
    (hclosed : openDispatch journal ≠ some number) :
    (deliveries binding journal).head? = some isMatch ↔
      (deliveries binding older).head? = (answers number older).head? ∨
        changes number recent ≠ [] := by
  by_cases hchanges : changes number recent = []
  · rw [h.unchanged hchanges, h.answer hchanges]
    simp [hchanges]
  · simp [hchanges, h.changed hchanges hclosed]

/-- When a binding joins, the answer may have changed since its first delivery, but not inside
of a dispatch. -/
theorem Ledger.join (hanswer : (answers number older).head? = some isMatch)
    (hinside : openDispatch older = some number →
      (deliveries binding older).head? = some isMatch) :
    Ledger binding number [] older (.bindingJoined binding number :: older) isMatch where
  answer _ := hanswer
  unchanged _ := by rw [deliveries_cons (by simp)]
  inside _ := hinside
  changed hchanges := absurd rfl hchanges

namespace Ledger

/-- An entry that leaves the changes, the deliveries and the dispatches alone leaves the ledger
alone. -/
theorem cons (h : Ledger binding number recent older journal isMatch)
    (hchange : ∀ answer, entry ≠ .dispatchBegan number answer)
    (hdelivery : ∀ receiver answer, entry ≠ .called (.deliver binding receiver answer))
    (hdispatch : openDispatch (entry :: journal) = openDispatch journal) :
    Ledger binding number (entry :: recent) older (entry :: journal) isMatch := by
  constructor <;> rw [changes_cons hchange]
  · exact h.answer
  · rw [deliveries_cons hdelivery]
    exact h.unchanged
  · rw [hdispatch]
    exact h.inside
  · rw [hdispatch, deliveries_cons hdelivery]
    exact h.changed

/-- Asides that are not about a binding leave its ledger as it is. -/
theorem aside (h : Ledger binding number recent older journal isMatch)
    (haside : entry.IsAsideFor binding) :
    Ledger binding number (entry :: recent) older (entry :: journal) isMatch := by
  have hneutral : entry.IsAside := isAside_of_isAsideFor haside
  apply h.cons
  · exact hneutral.ne_dispatchBegan number
  · intro receiver answer hentry
    subst hentry
    exact haside rfl
  · exact openDispatch_aside hneutral

/-- The change of another handle, outside of every dispatch. -/
theorem changeOther (h : Ledger binding number recent older journal isMatch) {other : Nat}
    (hother : other ≠ number) (hclosed : openDispatch journal = none) (answer : Bool) :
    Ledger binding number (.dispatchBegan other answer :: recent) older
      (.dispatchBegan other answer :: journal) isMatch := by
  have hchange : ∀ same, Entry.dispatchBegan other answer ≠ .dispatchBegan number same := by
    intro same hsame
    cases hsame
    exact hother rfl
  constructor <;> rw [changes_cons hchange]
  · exact h.answer
  · rw [deliveries_cons (by simp)]
    exact h.unchanged
  · intro _ hopen
    cases hopen
    exact absurd rfl hother
  · intro hchanges _
    rw [deliveries_cons (by simp)]
    exact h.changed hchanges (by simp [hclosed])

/-- The change of the handle itself opens its dispatch. -/
theorem change (answer : Bool) :
    Ledger binding number (.dispatchBegan number answer :: recent) older
      (.dispatchBegan number answer :: journal) answer where
  answer hchanges := by simp at hchanges
  unchanged hchanges := by simp at hchanges
  inside hchanges := by simp at hchanges
  changed _ hclosed := absurd rfl hclosed

/-- The receiver is given the answer in the dispatch of it. -/
theorem deliver (h : Ledger binding number recent older journal isMatch)
    (hopen : openDispatch journal = some number) (receiver : Text) :
    Ledger binding number (.called (.deliver binding receiver isMatch) :: recent) older
      (.called (.deliver binding receiver isMatch) :: journal) isMatch := by
  have hchange : ∀ answer, Entry.called (.deliver binding receiver isMatch) ≠
      .dispatchBegan number answer := by simp
  constructor <;> rw [changes_cons hchange]
  · exact h.answer
  · intro hchanges
    rw [deliveries_deliver, List.head?_cons, h.inside hchanges hopen]
  · intro hchanges _
    exact h.inside hchanges hopen
  · intro _ _
    rw [deliveries_deliver, List.head?_cons]

/-- A dispatch ends after the receiver, if it listens to the handle, knows the answer. -/
theorem ended (h : Ledger binding number recent older journal isMatch) (other : Nat)
    (hknown : openDispatch journal = some number →
      (deliveries binding journal).head? = some isMatch) :
    Ledger binding number (.dispatchEnded other :: recent) older
      (.dispatchEnded other :: journal) isMatch := by
  have hchange : ∀ answer, Entry.dispatchEnded other ≠ .dispatchBegan number answer := by simp
  constructor <;> rw [changes_cons hchange]
  · exact h.answer
  · rw [deliveries_cons (by simp)]
    exact h.unchanged
  · intro _ hopen
    cases hopen
  · intro hchanges _
    rw [deliveries_cons (by simp)]
    by_cases hopen : openDispatch journal = some number
    · exact hknown hopen
    · exact h.changed hchanges hopen

end Ledger

/-- The ledger of a binding is kept wherever it joined, for the present answers of the handles. -/
def Accounts (binding : Nat) (journal : Journal) (present : Nat → Option Bool) : Prop :=
  ∀ recent number older isMatch, journal = recent ++ .bindingJoined binding number :: older →
    present number = some isMatch → Ledger binding number recent older journal isMatch

/-- A further entry keeps the accounts if it keeps each ledger. -/
theorem Accounts.cons {present : Nat → Option Bool}
    (hentry : ∀ number, entry ≠ .bindingJoined binding number)
    (h : ∀ recent number older isMatch, journal = recent ++ .bindingJoined binding number :: older →
      present number = some isMatch →
        Ledger binding number (entry :: recent) older (entry :: journal) isMatch) :
    Accounts binding (entry :: journal) present := by
  intro recent number older isMatch hsplit hpresent
  cases recent with
  | nil =>
    rw [List.nil_append, List.cons.injEq] at hsplit
    exact absurd hsplit.1 (hentry number)
  | cons first rest =>
    rw [List.cons_append, List.cons.injEq] at hsplit
    obtain ⟨rfl, hrest⟩ := hsplit
    exact h rest number older isMatch hrest hpresent

/-- Asides that are not about the binding keep its accounts. -/
theorem Accounts.adds {present : Nat → Option Bool} {after : Journal}
    (h : Accounts binding journal present)
    (hadds : Adds (Entry.IsAsideFor binding) journal after) : Accounts binding after present := by
  obtain ⟨added, hadded, rfl⟩ := hadds
  induction added with
  | nil => exact h
  | cons entry added ih =>
    rw [List.forall_mem_cons] at hadded
    apply Accounts.cons
    · intro number hentry
      subst hentry
      exact hadded.1 rfl
    · intro recent number older isMatch hsplit hpresent
      exact (ih hadded.2 recent number older isMatch hsplit hpresent).aside hadded.1

/-- The accounts begin when the binding joins a handle for the first time. -/
theorem Accounts.join {present : Nat → Option Bool}
    (hfresh : ∀ number, .bindingJoined binding number ∉ journal)
    (hanswer : (answers number journal).head? = present number)
    (hinside : openDispatch journal = some number →
      (deliveries binding journal).head? = present number) :
    Accounts binding (.bindingJoined binding number :: journal) present := by
  intro recent other older isMatch hsplit hpresent
  cases recent with
  | nil =>
    rw [List.nil_append] at hsplit
    cases hsplit
    rw [hpresent] at hanswer hinside
    exact Ledger.join hanswer hinside
  | cons first rest =>
    rw [List.cons_append, List.cons.injEq] at hsplit
    refine absurd ?_ (hfresh other)
    rw [hsplit.2]
    exact List.mem_append_right _ List.mem_cons_self

end Journal

end Breakpoint
