import Breakpoint.Proofs.Query.Conjunctions
import Breakpoint.Proofs.Query.Descent

/-!
# What a tree says about its text

The tree of a text is a chain of alternatives, each a chain of operands, each a feature below
negations. Its features are those of the groups between parentheses in the text, from left to
right: taking blanks, media types and negations off moves no group, and neither does cutting.
-/

namespace Breakpoint.Query

open Breakpoint.Text

/-! ## Shapes -/

/-- A feature below negations. -/
inductive IsStack : Query → Prop where
  | feature (test : Feature) : IsStack (.feature test)
  | neg {operand : Query} (below : IsStack operand) : IsStack (.neg operand)

/-- Stacks joined to the left by conjunctions. -/
inductive IsConjChain : Query → Prop where
  | single {operand : Query} (stack : IsStack operand) : IsConjChain operand
  | conj {left right : Query} (chain : IsConjChain left) (stack : IsStack right) :
      IsConjChain (.conj left right)

/-- Chains of conjunctions joined to the left by disjunctions. -/
inductive IsDisjChain : Query → Prop where
  | single {alternative : Query} (chain : IsConjChain alternative) : IsDisjChain alternative
  | disj {left right : Query} (chain : IsDisjChain left) (alternative : IsConjChain right) :
      IsDisjChain (.disj left right)

/-- More negations of a feature below negations are one such stack. -/
theorem IsStack.negated {query : Query} (h : IsStack query) (count : Nat) :
    IsStack (negated count query) := by
  induction count with
  | zero => exact h
  | succ count ih =>
    rw [negated_succ]
    exact .neg ih

/-- Members joined to the left are a chain of them. -/
theorem chain_joinLeft {member chain : Query → Prop} {join : Query → Query → Query}
    (single : ∀ query, member query → chain query)
    (extend : ∀ left right, chain left → member right → chain (join left right))
    {members : List Query} (hne : members ≠ []) (h : ∀ query ∈ members, member query) :
    chain (joinLeft join members) := by
  cases members with
  | nil => exact absurd rfl hne
  | cons first rest =>
    rw [List.forall_mem_cons] at h
    have hfirst := single first h.1
    have hrest := h.2
    clear h hne
    rw [joinLeft]
    induction rest generalizing first with
    | nil => exact hfirst
    | cons second rest ih =>
      rw [List.forall_mem_cons] at hrest
      exact ih (join first second) (extend first second hfirst hrest.1) hrest.2

/-- Features below negations that are joined to the left are a chain of operands. -/
theorem isConjChain_joinLeft {operands : List Query} (hne : operands ≠ [])
    (h : ∀ operand ∈ operands, IsStack operand) : IsConjChain (joinLeft .conj operands) :=
  chain_joinLeft (fun _ => .single) (fun _ _ => .conj) hne h

/-- Chains of operands that are joined to the left are a chain of alternatives. -/
theorem isDisjChain_joinLeft {alternatives : List Query} (hne : alternatives ≠ [])
    (h : ∀ alternative ∈ alternatives, IsConjChain alternative) :
    IsDisjChain (joinLeft .disj alternatives) :=
  chain_joinLeft (fun _ => .single) (fun _ _ => .disj) hne h

/-! ## Features -/

/-- Negations have the features of what they negate. -/
theorem features_negated (count : Nat) (query : Query) :
    (negated count query).features = query.features := by
  induction count with
  | zero => rfl
  | succ count ih => rw [negated_succ, features, ih]

/-- The features of members joined to the left are those of the members one after the other. -/
theorem features_joinLeft {join : Query → Query → Query}
    (hjoin : ∀ left right, (join left right).features = left.features ++ right.features)
    (members : List Query) : (joinLeft join members).features = members.flatMap features := by
  cases members with
  | nil => rfl
  | cons first rest =>
    rw [joinLeft, List.flatMap_cons]
    induction rest generalizing first with
    | nil => simp
    | cons second rest ih => rw [List.foldl_cons, ih, hjoin, List.flatMap_cons, List.append_assoc]

/-! ## Groups -/

/-- The contents of the groups in the rest of a text: each begins after an opening parenthesis and
goes up to the next closing one. `content?` is what the open group holds so far, last code point
first, if a group is open. -/
def groupsFrom : Option Text → Text → List Text
  | _, [] => []
  | none, c :: rest => if c = .char '(' then groupsFrom (some []) rest else groupsFrom none rest
  | some content, c :: rest =>
    if c = .char ')' then content.reverse :: groupsFrom none rest
    else groupsFrom (some (c :: content)) rest

/-- The contents of the groups between parentheses in a text, from left to right. -/
def groups (text : Text) : List Text := groupsFrom none text

/-- A clause stands between parentheses, and there is no closing one inside. -/
theorem eq_of_clause? {text content : Text} (h : clause? text = some content) :
    .char ')' ∉ content ∧ text = .char '(' :: (content ++ [.char ')']) := by
  rw [clause?.eq_def] at h
  split at h
  · next inside =>
    dsimp only at h
    split at h
    · next hcheck =>
      cases h
      rw [Bool.and_eq_true, beq_iff_eq] at hcheck
      constructor
      · intro hmember
        have hother := List.mem_takeWhile_imp hmember
        simp at hother
      · have hsplit := List.prefix_iff_eq_append.1
          (List.takeWhile_prefix (l := inside) (p := (· != .char ')')))
        rw [hcheck.2] at hsplit
        rw [hsplit]
    · cases h
  · cases h

/-- The features that the contents of groups write, if each of them writes one. -/
def featuresOf? (contents : List Text) : Option (List Feature) :=
  contents.mapM fun content => feature? (trim content)

/-- The groups of a text write the features, whatever text comes after it. -/
def Writes (text : Text) (tests : List Feature) : Prop :=
  ∃ contents, (∀ rest, groupsFrom none (text ++ rest) = contents ++ groupsFrom none rest) ∧
    featuresOf? contents = some tests

namespace Writes

variable {first second text : Text} {tests others : List Feature}

/-- Two texts one after the other write the features of both. -/
theorem append (hfirst : Writes first tests) (hsecond : Writes second others) :
    Writes (first ++ second) (tests ++ others) := by
  obtain ⟨contents, hgroups, htests⟩ := hfirst
  obtain ⟨more, hmore, hothers⟩ := hsecond
  refine ⟨contents ++ more, fun rest => ?_, ?_⟩
  · rw [List.append_assoc, hgroups, hmore, List.append_assoc]
  · rw [featuresOf?] at htests hothers ⊢
    rw [List.mapM_append, htests, hothers]
    rfl

/-- A text without parentheses writes nothing. -/
theorem of_notMem (h : .char '(' ∉ text) : Writes text [] := by
  refine ⟨[], fun rest => ?_, rfl⟩
  rw [List.nil_append]
  induction text with
  | nil => rfl
  | cons c text ih =>
    rw [List.mem_cons, not_or] at h
    rw [List.cons_append, groupsFrom, if_neg (Ne.symm h.1), ih h.2]

/-- A text without marks writes no features. -/
theorem of_unmarked (h : ∀ c ∈ text, IsUnmarked c) : Writes text [] :=
  of_notMem (notMem_of_unmarked h)

/-- Texts without marks around a text make no difference. -/
theorem around {before after : Text} (h : Writes text tests) (hbefore : ∀ c ∈ before, IsUnmarked c)
    (hafter : ∀ c ∈ after, IsUnmarked c) : Writes (before ++ (text ++ after)) tests := by
  have hall := (of_unmarked hbefore).append (h.append (of_unmarked hafter))
  rwa [List.nil_append, List.append_nil] at hall

/-- An open group goes up to the next closing parenthesis. -/
theorem groupsFrom_some {content : Text} (h : .char ')' ∉ content) (current rest : Text) :
    groupsFrom (some current) (content ++ .char ')' :: rest) =
      (current.reverse ++ content) :: groupsFrom none rest := by
  induction content generalizing current with
  | nil => rw [List.nil_append, groupsFrom, if_pos rfl, List.append_nil]
  | cons c content ih =>
    rw [List.mem_cons, not_or] at h
    rw [List.cons_append, groupsFrom, if_neg (Ne.symm h.1), ih h.2, List.reverse_cons,
      List.append_assoc, List.singleton_append]

/-- A clause is a group with nothing around it. -/
theorem of_clause? {content : Text} (h : clause? text = some content) {test : Feature}
    (htest : feature? (trim content) = some test) : Writes text [test] := by
  have hclose := eq_of_clause? h
  refine ⟨[content], fun rest => ?_, by simp [featuresOf?, htest]⟩
  rw [hclose.2, List.cons_append, groupsFrom, if_pos rfl, List.append_assoc, List.singleton_append,
    groupsFrom_some hclose.1]
  rfl

/-- The parts of a text that is cut write one after the other what the text writes. -/
theorem of_cuts {fold : CodePoint → CodePoint} {needle : Text} (hdelimiter : IsDelimiter fold needle)
    {parts : List Text} {trees : List Query} (h : Cuts fold needle text parts)
    (hparts : List.Forall₂ (fun part tree => Writes part tree.features) parts trees) :
    Writes text (trees.flatMap features) := by
  induction h generalizing trees with
  | empty =>
    cases hparts
    exact of_notMem (by simp)
  | last =>
    rcases hparts with _ | ⟨hfirst, hnone⟩
    cases hnone
    rwa [List.flatMap_singleton]
  | cut _ _ found _ ih =>
    cases hparts with
    | cons hfirst hrest =>
      rw [List.flatMap_cons]
      apply hfirst.append
      have hplain := hdelimiter.forall_mem found
      exact (of_notMem fun hmember => (hplain _ hmember).1 rfl).append (ih hrest)

end Writes

/-! ## Soundness -/

/-- What the tree of a text is like: a chain of alternatives, a single alternative if the text has
no comma outside parentheses, and a feature below negations if it has no conjunction there either.
Its features are those of the groups of the text. -/
structure Depicts (text : Text) (tree : Query) : Prop where
  chain : IsDisjChain tree
  alternative : Spares id [.char ','] text → IsConjChain tree
  stack : Spares id [.char ','] text → Spares lowerPlain Written.conjunction text → IsStack tree
  writes : Writes text tree.features

variable {text : Text} {tree : Query}

/-- The text that is worked on stands after a text without marks, and blanks come after it. -/
theorem exists_working (text : Text) :
    ∃ before after, text = before ++ (dropMediaType (trim text) ++ after) ∧
      (∀ c ∈ before, IsUnmarked c) ∧ ∀ c ∈ after, isBlank c = true := by
  obtain ⟨blanks, after, htext, hblanks, hafter⟩ := exists_trim text
  obtain ⟨lead, htrim, hlead, -⟩ := exists_dropMediaType (trim text)
  refine ⟨blanks ++ lead, after, ?_, ?_, hafter⟩
  · rw [List.append_assoc, ← List.append_assoc lead, ← htrim, ← htext]
  · rw [List.forall_mem_append]
    exact ⟨isUnmarked_of_blanks hblanks, hlead⟩

/-- What is worked on of a text has no delimiter if the text has none. -/
theorem Spares.working {fold : CodePoint → CodePoint} {needle : Text} (h : Spares fold needle text) :
    Spares fold needle (dropMediaType (trim text)) := by
  obtain ⟨before, after, htext, hbefore, -⟩ := exists_working text
  rw [htext] at h
  exact h.of_isInfix (nesting_of_unmarked hbefore)

/-- A text writes the features of what is worked on. -/
theorem Writes.of_working {tests : List Feature} (h : Writes (dropMediaType (trim text)) tests) :
    Writes text tests := by
  obtain ⟨before, after, htext, hbefore, hafter⟩ := exists_working text
  rw [htext]
  exact h.around hbefore (isUnmarked_of_blanks hafter)

/-- Each tree is that of some part. -/
theorem exists_part {parts : List Text} {trees : List Query} {relates : Text → Query → Prop}
    (h : List.Forall₂ relates parts trees) : ∀ tree ∈ trees, ∃ part ∈ parts, relates part tree := by
  induction h with
  | nil => exact List.forall_mem_nil _
  | cons hfirst _ ih =>
    rw [List.forall_mem_cons]
    refine ⟨⟨_, List.mem_cons_self, hfirst⟩, fun tree htree => ?_⟩
    obtain ⟨part, hpart, hrelated⟩ := ih tree htree
    exact ⟨part, List.mem_cons_of_mem _ hpart, hrelated⟩

/-- What holds of the tree of each part holds of each tree. -/
theorem forall_mem_trees {parts : List Text} {trees : List Query} {holds : Query → Prop}
    (h : List.Forall₂ (fun _ tree => holds tree) parts trees) : ∀ tree ∈ trees, holds tree := by
  intro tree htree
  obtain ⟨part, -, hholds⟩ := exists_part h tree htree
  exact hholds

/-- A text that is cut has parts, so there are trees of its parts. -/
theorem trees_ne_nil {delimiter : Text} {ignoreCase : Bool} {parts : List Text} {trees : List Query}
    {relates : Text → Query → Prop} (hcuts : cuts? text delimiter ignoreCase = some parts)
    (h : List.Forall₂ relates parts trees) : trees ≠ [] := by
  rintro rfl
  rw [List.forall₂_nil_right_iff] at h
  exact ne_nil_of_cuts? hcuts h

/-- Every part of a text is what it depicts. -/
theorem depicts_parts {delimiter : Text} {ignoreCase : Bool} {parts : List Text} {trees : List Query}
    (h : .char 'İ' ∉ text) (hcuts : cuts? (dropMediaType (trim text)) delimiter ignoreCase = some parts)
    (hparts : List.Forall₂ (fun part tree => .char 'İ' ∉ part → Depicts part tree) parts trees) :
    List.Forall₂ (fun part tree => part ∈ parts ∧ Depicts part tree) parts trees := by
  have hmember : List.Forall₂ (fun part tree => part ∈ parts ∧ (.char 'İ' ∉ part → Depicts part tree))
      parts trees := (List.forall₂_and_left _ _).2 ⟨fun _ hpart => hpart, hparts⟩
  exact hmember.imp fun part tree hpart => ⟨hpart.1, hpart.2 (notMem_part h hcuts hpart.1)⟩

/-- A text is not cut at a comma exactly if none stands outside parentheses. -/
theorem cuts?_comma_eq_none_iff :
    cuts? text "," false = none ↔ Spares id [.char ','] text :=
  cuts?_eq_none_iff isDelimiter_comma.nonempty (cuts_comma text)

/-- A text without the dotted capital I is not cut at a conjunction exactly if none stands outside
parentheses. -/
theorem cuts?_conjunction_eq_none_iff (h : .char 'İ' ∉ text) :
    cuts? text " and " true = none ↔ Spares lowerPlain Written.conjunction text :=
  cuts?_eq_none_iff isDelimiter_conjunction.nonempty (cuts_conjunction h)

/-- A text that is cut at commas depicts the chain of its alternatives. -/
theorem Depicts.of_alternatives {parts : List Text} {trees : List Query} (h : .char 'İ' ∉ text)
    (hcuts : cuts? (dropMediaType (trim text)) "," false = some parts)
    (hparts : List.Forall₂ (fun part tree => .char 'İ' ∉ part → Depicts part tree) parts trees) :
    Depicts text (joinLeft .disj trees) := by
  have hscan := cuts_of_cuts? (cuts_comma _) hcuts
  have hdepicts := depicts_parts h hcuts hparts
  have hcomma : ¬ Spares id [.char ','] text := by
    intro hspares
    rw [cuts?_comma_eq_none_iff.2 hspares.working] at hcuts
    cases hcuts
  have hchains : ∀ tree ∈ trees, IsConjChain tree := by
    apply forall_mem_trees
    refine hdepicts.imp fun part tree hpart => ?_
    exact hpart.2.alternative (hscan.of_mem isDelimiter_comma hpart.1).1
  have hwrites : Writes text (trees.flatMap features) :=
    .of_working (.of_cuts isDelimiter_comma hscan (hdepicts.imp fun _ _ hpart => hpart.2.writes))
  refine ⟨isDisjChain_joinLeft (trees_ne_nil hcuts hparts) hchains, fun hspares => absurd hspares hcomma,
    fun hspares => absurd hspares hcomma, ?_⟩
  rw [features_joinLeft fun _ _ => rfl]
  exact hwrites

/-- A text that is cut at conjunctions depicts the chain of its operands. -/
theorem Depicts.of_operands {parts : List Text} {trees : List Query} (h : .char 'İ' ∉ text)
    (hcomma : cuts? (dropMediaType (trim text)) "," false = none)
    (hcuts : cuts? (dropMediaType (trim text)) " and " true = some parts)
    (hparts : List.Forall₂ (fun part tree => .char 'İ' ∉ part → Depicts part tree) parts trees) :
    Depicts text (joinLeft .conj trees) := by
  have hworking : .char 'İ' ∉ dropMediaType (trim text) := notMem_working h
  have hscan := cuts_of_cuts? (cuts_conjunction hworking) hcuts
  have hdepicts := depicts_parts h hcuts hparts
  have hstacks : ∀ tree ∈ trees, IsStack tree := by
    apply forall_mem_trees
    refine hdepicts.imp fun part tree hpart => ?_
    obtain ⟨hspares, before, after, hsplit, hlevel⟩ := hscan.of_mem isDelimiter_conjunction hpart.1
    have hcommaless := cuts?_comma_eq_none_iff.1 hcomma
    rw [hsplit] at hcommaless
    exact hpart.2.stack (hcommaless.of_isInfix hlevel) hspares
  have hwrites : Writes text (trees.flatMap features) :=
    .of_working (.of_cuts isDelimiter_conjunction hscan
      (hdepicts.imp fun _ _ hpart => hpart.2.writes))
  have hchain := isConjChain_joinLeft (trees_ne_nil hcuts hparts) hstacks
  refine ⟨.single hchain, fun _ => hchain, fun _ hspares => ?_, ?_⟩
  · rw [(cuts?_conjunction_eq_none_iff hworking).2 hspares.working] at hcuts
    cases hcuts
  · rw [features_joinLeft fun _ _ => rfl]
    exact hwrites

/-- A text with negations depicts what comes after them below as many negations. -/
theorem Depicts.of_negations {rest lead : Text} (count : Nat)
    (hcomma : Spares id [.char ','] (dropMediaType (trim text)))
    (hconjunction : Spares lowerPlain Written.conjunction (dropMediaType (trim text)))
    (hsplit : dropMediaType (trim text) = lead ++ rest) (hlead : ∀ c ∈ lead, IsUnmarked c)
    (hrest : Depicts rest tree) : Depicts text (negated count tree) := by
  have hlevel := nesting_of_unmarked hlead
  have hworking : dropMediaType (trim text) = lead ++ (rest ++ []) := by rw [List.append_nil, hsplit]
  have hwrites : Writes (dropMediaType (trim text)) tree.features := by
    rw [hworking]
    exact hrest.writes.around hlead (List.forall_mem_nil _)
  rw [hworking] at hcomma hconjunction
  have hstack : IsStack (negated count tree) :=
    (hrest.stack (hcomma.of_isInfix hlevel) (hconjunction.of_isInfix hlevel)).negated count
  refine ⟨.single (.single hstack), fun _ => .single hstack, fun _ _ => hstack, ?_⟩
  rw [features_negated]
  exact .of_working hwrites

/-- A clause depicts its feature. -/
theorem Depicts.of_clause (h : parseClause (dropMediaType (trim text)) = .ok tree) :
    Depicts text tree := by
  rw [parseClause] at h
  split at h
  · next content hclause =>
    split at h
    · next test htest =>
      cases h
      have hstack : IsStack (.feature test) := .feature test
      exact ⟨.single (.single hstack), fun _ => .single hstack, fun _ _ => hstack,
        .of_working (.of_clause? hclause htest)⟩
    · cases h
  · split at h <;> cases h

/-- A text without the dotted capital I depicts the tree that it is read as. -/
theorem depicts_of_parse (h : parse text = .ok tree) : .char 'İ' ∉ text → Depicts text tree := by
  refine parse_induction (fun text tree => .char 'İ' ∉ text → Depicts text tree) ?alternatives
    ?operands ?negations ?clause h
  case alternatives =>
    intro text parts trees hcuts hparts hdotted
    exact .of_alternatives hdotted hcuts hparts
  case operands =>
    intro text parts trees hcomma hcuts hparts hdotted
    exact .of_operands hdotted hcomma hcuts hparts
  case negations =>
    intro text count rest tree hcomma hconjunction hstrip hrest hdotted
    have hworking := notMem_working hdotted
    obtain ⟨lead, hsplit, -, hlead⟩ := exists_stripNots hstrip
    have hbelow : .char 'İ' ∉ rest := by
      rw [hsplit] at hworking
      exact fun hmember => hworking (List.mem_append_right lead hmember)
    exact .of_negations (count + 1) (cuts?_comma_eq_none_iff.1 hcomma)
      ((cuts?_conjunction_eq_none_iff hworking).1 hconjunction) hsplit hlead (hrest hbelow)
  case clause =>
    intro text tree _ _ hclause _
    exact .of_clause hclause

/-- Every reading of a query without the dotted capital I that gives a tree gives a chain of
alternatives, each a chain of operands, each a feature below negations, and its features from left to
right are those that the contents of its groups write from left to right. -/
theorem depicts_of_readsAs {query : Text} {tree : Query} (hread : ReadsAs query (some tree))
    (hdotted : .char 'İ' ∉ query) :
    IsDisjChain tree ∧
      (groups query).mapM (fun content => feature? (trim content)) = some tree.features := by
  have hparse := parse?_eq_some_iff.1 (readsAs_iff.1 hread).symm
  obtain ⟨hchain, -, -, contents, hgroups, htests⟩ := depicts_of_parse hparse hdotted
  have hall := hgroups []
  rw [List.append_nil, groupsFrom, List.append_nil] at hall
  refine ⟨hchain, ?_⟩
  rw [groups, hall]
  exact htests

/-- A list of a conjunction after a media type and a single feature. -/
theorem hover_list_depicted :
    IsDisjChain (.disj
      (.conj (.neg (.feature ⟨"hover", .exactly, .keyword "none"⟩))
        (.feature ⟨"pointer", .exactly, .keyword "fine"⟩))
      (.feature ⟨"hover", .exactly, .keyword "hover"⟩)) ∧
    (groups "print and not (hover: none) AND ( pointer:fine ),(hover: hover)").mapM
        (fun content => feature? (trim content)) =
      some [⟨"hover", .exactly, .keyword "none"⟩, ⟨"pointer", .exactly, .keyword "fine"⟩,
        ⟨"hover", .exactly, .keyword "hover"⟩] := by
  have hread : ReadsAs "print and not (hover: none) AND ( pointer:fine ),(hover: hover)"
      (some (.disj
        (.conj (.neg (.feature ⟨"hover", .exactly, .keyword "none"⟩))
          (.feature ⟨"pointer", .exactly, .keyword "fine"⟩))
        (.feature ⟨"hover", .exactly, .keyword "hover"⟩))) := ⟨4, [], rfl⟩
  exact depicts_of_readsAs hread (by decide +kernel)

end Breakpoint.Query
