import Mathlib.Data.List.Chain
import Breakpoint.Engine.State

/-!
# What a journal tells

A journal, the last entry first, tells of each handle the answer it was made with and the
answers it changed to, and of each binding what was delivered to it. The dispatches stand in it
between brackets: a journal is orderly if a bracket is opened only where none is open, and is
closed and filled only by the handle that opened it.

Most entries are asides, which tell nothing of answers and leave the brackets alone.
-/

namespace Breakpoint

/-- What an engine did, the last first. -/
abbrev Journal := List Entry

/-- An entry that tells nothing of an answer and no bracket. -/
def Entry.IsAside : Entry → Prop
  | .handleMade _ _ | .dispatchBegan _ _ | .told _ _ _ | .dispatchEnded _ => False
  | .record _ | .sweepBegan _ | .passBegan | .sweepEnded | .called _ | .bindingJoined _ _ => True

/-- No aside tells that a handle was made. -/
theorem Entry.IsAside.ne_handleMade {entry : Entry} (h : entry.IsAside) (number : Nat)
    (isMatch : Bool) : entry ≠ .handleMade number isMatch := by
  intro hsame
  subst hsame
  exact h

/-- No aside tells that a dispatch began. -/
theorem Entry.IsAside.ne_dispatchBegan {entry : Entry} (h : entry.IsAside) (number : Nat)
    (isMatch : Bool) : entry ≠ .dispatchBegan number isMatch := by
  intro hsame
  subst hsame
  exact h

namespace Journal

/-- The answers that a handle was made with: one, if it was made once. -/
def madeWith (number : Nat) (journal : Journal) : List Bool :=
  journal.filterMap fun entry =>
    match entry with
    | .handleMade made isMatch => if made = number then some isMatch else none
    | _ => none

/-- The answers that a handle changed to, the last first. -/
def changes (number : Nat) (journal : Journal) : List Bool :=
  journal.filterMap fun entry =>
    match entry with
    | .dispatchBegan changed isMatch => if changed = number then some isMatch else none
    | _ => none

/-- All answers of a handle, the last first. -/
def answers (number : Nat) (journal : Journal) : List Bool :=
  changes number journal ++ madeWith number journal

/-- The values that were delivered to a binding, the last first. -/
def deliveries (binding : Nat) (journal : Journal) : List Bool :=
  journal.filterMap fun entry =>
    match entry with
    | .called (.deliver bound _ isMatch) => if bound = binding then some isMatch else none
    | _ => none

/-- The handle whose dispatch has begun and not ended. -/
def openDispatch : Journal → Option Nat
  | [] => none
  | .dispatchBegan number _ :: _ => some number
  | .dispatchEnded _ :: _ => none
  | _ :: journal => openDispatch journal

/-- Whether an entry is in its place after a journal. -/
def Continues (entry : Entry) (journal : Journal) : Prop :=
  match entry with
  | .dispatchBegan _ _ => openDispatch journal = none
  | .told number _ _ | .dispatchEnded number => openDispatch journal = some number
  | _ => True

/-- Dispatches never overlap, and listeners are told of an event only by the dispatch of its
handle. -/
def IsOrderly : Journal → Prop
  | [] => True
  | entry :: journal => Continues entry journal ∧ IsOrderly journal

/-- What a true journal tells of a handle that has an answer, or was not made yet: it was made
once, its answers alternate, and the last of them is the present one. -/
def Tells (number : Nat) (journal : Journal) : Option Bool → Prop
  | none => answers number journal = []
  | some isMatch => (∃ first, madeWith number journal = [first]) ∧
    (answers number journal).IsChain (· ≠ ·) ∧ (answers number journal).head? = some isMatch

variable {number binding : Nat} {journal : Journal} {entry : Entry}

/-- An entry that begins no dispatch of a handle adds no change of it. -/
theorem changes_cons (hentry : ∀ isMatch, entry ≠ .dispatchBegan number isMatch) :
    changes number (entry :: journal) = changes number journal := by
  apply List.filterMap_cons_none
  cases entry <;> simp_all

/-- A dispatch that begins adds a change. -/
@[simp] theorem changes_dispatchBegan (isMatch : Bool) :
    changes number (.dispatchBegan number isMatch :: journal) = isMatch :: changes number journal := by
  simp [changes]

/-- An entry that does not make a handle adds no first answer of it. -/
theorem madeWith_cons (hentry : ∀ isMatch, entry ≠ .handleMade number isMatch) :
    madeWith number (entry :: journal) = madeWith number journal := by
  apply List.filterMap_cons_none
  cases entry <;> simp_all

/-- A handle that is made adds its first answer. -/
@[simp] theorem madeWith_handleMade (isMatch : Bool) :
    madeWith number (.handleMade number isMatch :: journal) = isMatch :: madeWith number journal := by
  simp [madeWith]

/-- The changes of two parts of a journal are those of the whole. -/
theorem changes_append (added : Journal) :
    changes number (added ++ journal) = changes number added ++ changes number journal :=
  List.filterMap_append

/-- The first answers of two parts of a journal are those of the whole. -/
theorem madeWith_append (added : Journal) :
    madeWith number (added ++ journal) = madeWith number added ++ madeWith number journal :=
  List.filterMap_append

/-- The changes of a handle are the dispatches that began. -/
theorem mem_changes {isMatch : Bool} :
    isMatch ∈ changes number journal ↔ .dispatchBegan number isMatch ∈ journal := by
  rw [changes, List.mem_filterMap]
  constructor
  · rintro ⟨entry, hentry, hchange⟩
    cases entry with
    | dispatchBegan changed answer =>
      obtain ⟨rfl, rfl⟩ : changed = number ∧ answer = isMatch := by simpa using hchange
      exact hentry
    | _ => cases hchange
  · exact fun hmember => ⟨_, hmember, by simp⟩

/-- An entry that calls no receiver of a binding adds no delivery to it. -/
theorem deliveries_cons
    (hentry : ∀ receiver isMatch, entry ≠ .called (.deliver binding receiver isMatch)) :
    deliveries binding (entry :: journal) = deliveries binding journal := by
  apply List.filterMap_cons_none
  cases entry with
  | called callback => cases callback <;> simp_all
  | _ => simp

/-- A call of the receiver adds a delivery. -/
@[simp] theorem deliveries_deliver (receiver : Text) (isMatch : Bool) :
    deliveries binding (.called (.deliver binding receiver isMatch) :: journal) =
      isMatch :: deliveries binding journal := by
  simp [deliveries]

/-- An entry that neither makes nor changes a handle leaves its answers alone. -/
theorem answers_cons (hmade : ∀ isMatch, entry ≠ .handleMade number isMatch)
    (hchange : ∀ isMatch, entry ≠ .dispatchBegan number isMatch) :
    answers number (entry :: journal) = answers number journal := by
  rw [answers, changes_cons hchange, madeWith_cons hmade, answers]

/-- A change is the last answer. -/
theorem answers_dispatchBegan (isMatch : Bool) :
    answers number (.dispatchBegan number isMatch :: journal) =
      isMatch :: answers number journal := by
  rw [answers, changes_dispatchBegan, madeWith_cons (by simp), answers, List.cons_append]

/-- The answer that a handle is made with is its first. -/
theorem answers_handleMade (isMatch : Bool) (hunmade : answers number journal = []) :
    answers number (.handleMade number isMatch :: journal) = [isMatch] := by
  obtain ⟨hchanges, hmade⟩ := List.append_eq_nil_iff.1 hunmade
  rw [answers, madeWith_handleMade, changes_cons (by simp), hchanges, hmade, List.nil_append]

/-- What is told of a handle does not depend on entries that are not about its answers. -/
theorem Tells.cons {present : Option Bool} (h : Tells number journal present)
    (hmade : ∀ isMatch, entry ≠ .handleMade number isMatch)
    (hchange : ∀ isMatch, entry ≠ .dispatchBegan number isMatch) :
    Tells number (entry :: journal) present := by
  cases present with
  | none => exact (answers_cons hmade hchange).trans h
  | some isMatch =>
    rw [Tells, answers_cons hmade hchange, madeWith_cons hmade]
    exact h

/-- A handle that is made has its first answer. -/
theorem Tells.make (h : Tells number journal none) (isMatch : Bool) :
    Tells number (.handleMade number isMatch :: journal) (some isMatch) := by
  have hmade : madeWith number journal = [] := (List.append_eq_nil_iff.1 h).2
  refine ⟨⟨isMatch, ?_⟩, ?_, ?_⟩
  · rw [madeWith_handleMade, hmade]
  · rw [answers_handleMade isMatch h]
    exact List.isChain_singleton _
  · rw [answers_handleMade isMatch h, List.head?_cons]

/-- A handle that changes its answer alternates. -/
theorem Tells.change {isMatch present : Bool} (h : Tells number journal (some present))
    (hchange : isMatch ≠ present) :
    Tells number (.dispatchBegan number isMatch :: journal) (some isMatch) := by
  obtain ⟨⟨first, hfirst⟩, hchain, hlast⟩ := h
  refine ⟨⟨first, (madeWith_cons (by simp)).trans hfirst⟩, ?_, ?_⟩
  · rw [answers_dispatchBegan, List.isChain_cons, hlast]
    refine ⟨?_, hchain⟩
    intro other hother
    cases hother
    exact hchange
  · rw [answers_dispatchBegan, List.head?_cons]

/-- An aside leaves the brackets alone. -/
theorem openDispatch_aside (haside : entry.IsAside) :
    openDispatch (entry :: journal) = openDispatch journal := by
  cases entry <;> first | rfl | exact haside.elim

/-- An aside fits everywhere. -/
theorem continues_of_isAside (haside : entry.IsAside) : Continues entry journal := by
  cases entry <;> trivial

/-- The later journal adds entries of a kind only. -/
def Adds (kind : Entry → Prop) (before after : Journal) : Prop :=
  ∃ added : Journal, (∀ entry ∈ added, kind entry) ∧ after = added ++ before

namespace Adds

variable {kind : Entry → Prop} {before middle after : Journal}

/-- A journal adds nothing to itself. -/
theorem refl (kind : Entry → Prop) (journal : Journal) : Adds kind journal journal :=
  ⟨[], by simp, rfl⟩

/-- What is added in two steps is of the kind if both parts are. -/
theorem trans (hfirst : Adds kind before middle) (hsecond : Adds kind middle after) :
    Adds kind before after := by
  obtain ⟨added, hadded, rfl⟩ := hfirst
  obtain ⟨others, hothers, rfl⟩ := hsecond
  refine ⟨others ++ added, ?_, by rw [List.append_assoc]⟩
  intro entry hentry
  rcases List.mem_append.1 hentry with hentry | hentry
  · exact hothers entry hentry
  · exact hadded entry hentry

/-- One entry of the kind. -/
theorem single (entry : Entry) (journal : Journal) (h : kind entry) :
    Adds kind journal (entry :: journal) :=
  ⟨[entry], by simpa using h, rfl⟩

/-- Any records, if records are of the kind. -/
theorem records (h : ∀ record, kind (.record record)) (records : List LogRecord)
    (journal : Journal) : Adds kind journal ((records.map .record).reverse ++ journal) := by
  refine ⟨_, ?_, rfl⟩
  intro entry hentry
  obtain ⟨record, -, rfl⟩ := List.mem_map.1 (List.mem_reverse.1 hentry)
  exact h record

/-- What is of a kind is of every wider one. -/
theorem mono {wider : Entry → Prop} (h : Adds kind before after)
    (hwider : ∀ entry, kind entry → wider entry) : Adds wider before after := by
  obtain ⟨added, hadded, rfl⟩ := h
  exact ⟨added, fun entry hentry => hwider entry (hadded entry hentry), rfl⟩

/-- What no entry of the kind changes stays. -/
theorem keeps {α : Type} (view : Journal → α)
    (hview : ∀ {entry : Entry} {journal : Journal}, kind entry →
      view (entry :: journal) = view journal)
    (h : Adds kind before after) : view after = view before := by
  obtain ⟨added, hadded, rfl⟩ := h
  induction added with
  | nil => rfl
  | cons entry added ih =>
    rw [List.forall_mem_cons] at hadded
    rw [List.cons_append, hview hadded.1, ih hadded.2]

end Adds

/-- The later journal adds nothing but asides. -/
abbrev GoesOn (before after : Journal) : Prop := Adds Entry.IsAside before after

namespace GoesOn

variable {before after : Journal}

/-- Asides change no answer that the journal tells. -/
theorem answers (h : GoesOn before after) (number : Nat) :
    answers number after = answers number before := by
  refine Adds.keeps (Journal.answers number) ?_ h
  intro entry journal haside
  exact answers_cons (haside.ne_handleMade number) (haside.ne_dispatchBegan number)

/-- What a journal tells of a handle, it tells with more asides. -/
theorem tells (h : GoesOn before after) {number : Nat} {present : Option Bool}
    (htells : Tells number before present) : Tells number after present := by
  obtain ⟨asides, hasides, rfl⟩ := h
  induction asides with
  | nil => exact htells
  | cons entry asides ih =>
    rw [List.forall_mem_cons] at hasides
    exact (ih hasides.2).cons (hasides.1.ne_handleMade number)
      (hasides.1.ne_dispatchBegan number)

/-- Asides neither begin nor end a dispatch. -/
theorem openDispatch (h : GoesOn before after) : openDispatch after = openDispatch before :=
  Adds.keeps Journal.openDispatch openDispatch_aside h

/-- An orderly journal stays orderly with more asides. -/
theorem isOrderly (h : GoesOn before after) (horderly : IsOrderly before) : IsOrderly after := by
  obtain ⟨asides, hasides, rfl⟩ := h
  induction asides with
  | nil => exact horderly
  | cons entry asides ih =>
    rw [List.forall_mem_cons] at hasides
    exact ⟨continues_of_isAside hasides.1, ih hasides.2⟩

end GoesOn

end Journal

end Breakpoint
