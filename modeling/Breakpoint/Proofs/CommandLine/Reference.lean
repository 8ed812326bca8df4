import Breakpoint.CommandLine.Transcript
import Breakpoint.Proofs.Query.Evaluation

/-!
# The lines of a command without an engine

What a command prints, told from its queries and sizes alone: every query is read and evaluated
afresh at each size, and nothing is remembered from one size to the next.
-/

namespace Breakpoint.CommandLine

/-- What a text answers: nothing if it cannot be read. -/
def answerOf (surroundings : Surroundings) (media : Text) : Option Bool :=
  (Query.parse? media).map fun query => (query.evaluate surroundings).toOption.getD false

/-- The line of a text at the first size. -/
def firstLine (surroundings : Surroundings) (media : Text) : Text :=
  queryLine media <|
    match answerOf surroundings media with
    | none => "unsupported"
    | some true => "match"
    | some false => "no match"

/-- The change of a text that answers otherwise in other surroundings. -/
def change? (before after : Surroundings) (media : Text) : Option ChangeEvent := do
  let old ← answerOf before media
  let new ← answerOf after media
  if new = old then none else some ⟨new, media⟩

/-- The line of a change. -/
def changeLine (change : ChangeEvent) : Text :=
  queryLine change.media (if change.isMatch then "match" else "no match")

/-- The lines about the changes of some texts, each of which counts once, where it comes first. -/
def linesOfChanges (before after : Surroundings) (queries : List Text) : List Text :=
  match queries.eraseDups.filterMap (change? before after) with
  | [] => ["  no changes"]
  | changes => changes.map changeLine

/-- The lines of further sizes, after a last one. -/
def furtherLines (around : Extent × Extent → Surroundings) (queries : List Text) :
    (last : Extent × Extent) → List (Extent × Extent) → List Text
  | _, [] => []
  | last, size :: further =>
    sizeLine size :: linesOfChanges (around last) (around size) queries
      ++ furtherLines around queries size further

/-- The lines of a command for its first size and the further ones. -/
def expectedLines (around : Extent × Extent → Surroundings) (first : Extent × Extent)
    (further : List (Extent × Extent)) (queries : List Text) : List Text :=
  sizeLine first :: queries.map (firstLine (around first)) ++ furtherLines around queries first further

variable {surroundings : Surroundings} {media : Text}

/-- A text that can be read has an answer. -/
theorem exists_answerOf {query : Query} (h : Query.parse? media = some query)
    (surroundings : Surroundings) : ∃ isMatch, answerOf surroundings media = some isMatch := by
  rw [answerOf, h]
  exact ⟨_, rfl⟩

/-- The answer of a text is what its query evaluates to. -/
theorem evaluate_eq_answerOf {query : Query} (h : Query.parse? media = some query)
    (surroundings : Surroundings) :
    query.evaluate surroundings = .ok ((answerOf surroundings media).getD false) := by
  obtain ⟨isMatch, hmatch⟩ := Query.evaluate_isOk (Query.readsAs_iff.2 h.symm) surroundings
  rw [answerOf, h, Option.map_some, hmatch]
  rfl

/-- A query that cannot be read has no answer. -/
theorem answerOf_eq_none (h : Query.parse? media = none) : answerOf surroundings media = none := by
  rw [answerOf, h, Option.map_none]

/-- A text that cannot be read never changes. -/
theorem change?_eq_none (h : Query.parse? media = none) (before after : Surroundings) :
    change? before after media = none := by
  rw [change?, answerOf_eq_none h]
  rfl

/-- A query changes between two sizes exactly if its answers differ. -/
theorem change?_eq_ite {before after : Surroundings} {old new : Bool}
    (hold : answerOf before media = some old) (hnew : answerOf after media = some new) :
    change? before after media = if new = old then none else some ⟨new, media⟩ := by
  rw [change?, hold, hnew]
  rfl

/-- The reading of a text ends in the room that there is. -/
def Ends (room : Nat) (media : Text) : Prop := ∃ reading, Query.parseLogged room media = .ok reading

/-- There is room for every text that is shorter than it. -/
theorem Ends.of_length_lt {room : Nat} (h : media.length < room) : Ends room media :=
  ⟨_, Query.parseLogged_of_length_lt h⟩

/-- What a reading gives is evaluated without a failure, to the answer of the text. -/
theorem Ends.evaluates {room : Nat} (h : Ends room media) (surroundings : Surroundings) :
    ∃ tree records, Query.parseLogged room media = .ok (tree, records) ∧
      tree.mapM (·.evaluate surroundings) = .ok (answerOf surroundings media) := by
  obtain ⟨⟨tree, records⟩, hread⟩ := h
  obtain rfl := (Query.parseLogged_eq_ok hread).1
  refine ⟨Query.parse? media, records, hread, ?_⟩
  cases hparse : Query.parse? media with
  | none =>
    rw [answerOf_eq_none hparse]
    rfl
  | some query =>
    rw [Option.mapM_some, evaluate_eq_answerOf hparse, answerOf, hparse, Option.map_some]
    rfl

end Breakpoint.CommandLine
