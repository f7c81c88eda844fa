/-
Scopes as conjunctions. Whatever joins the constraints of a scope to each other and to a
fragment puts every part in parentheses, unless the part stands alone. The clause that
comes out is therefore the conjunction of all parts, with an OR outside parentheses in any
of them, and no step takes back what an earlier one has asked for.
-/

import QueryWarden.Proofs.Filter.Meaning
import QueryWarden.Proofs.Scope.Narrowing

namespace QueryWarden

open Text Condition

namespace Truth

private theorem and_eq_holds {left right : Truth} (both : left.and right = .holds) :
    left = .holds ∧ right = .holds := by
  cases left <;> cases right <;> simp_all [Truth.and]

/-- A conjunction holds only if each of its parts does. -/
theorem eq_holds_of_all {parts : List Truth} (every : all parts = .holds) :
    ∀ part ∈ parts, part = .holds := by
  induction parts with
  | nil => simp
  | cons first others ih =>
      obtain ⟨firstHolds, othersHold⟩ := and_eq_holds every
      exact List.forall_mem_cons.mpr ⟨firstHolds, ih othersHold⟩

end Truth

namespace Condition

/-- What a fragment says: nothing if it is blank, and else the condition that it is. -/
def stated (text : String) : Option (List Condition) :=
  if isBlankText text then some [] else (read text).map fun condition => [condition]

/-- Texts that are joined by AND are read as the conjunction of what each of them is. -/
theorem exists_read_joinParts {first : String} {others : List String}
    {conditions : List Condition}
    (readEach : (first :: others).map read = conditions.map some) :
    ∃ whole, read (joinParts " AND " (first :: others)) = some whole ∧
      ∀ valuation, whole.value valuation = Truth.all (conditions.map (value valuation)) := by
  cases others with
  | nil =>
      obtain ⟨condition, noConditions, rfl, firstRead, noneRead⟩ := List.map_eq_cons_iff.mp readEach.symm
      cases List.map_eq_nil_iff.mp noneRead
      exact ⟨condition, firstRead.symm, fun valuation => (Truth.all_singleton _).symm⟩
  | cons second others =>
      obtain ⟨whole, wholeRead, wholeValue⟩ := read_of_parts (parts_separate_and readEach)
      refine ⟨whole, wholeRead, fun valuation => ?_⟩
      rw [wholeValue]
      exact Truth.any_singleton _

end Condition

namespace Scope

theorem apply_of_blank {scope : Scope} {fragment : String} (narrowed : scope.clauses ≠ [])
    (blank : isBlankText fragment = true) : scope.apply fragment = scope.clause := by
  have notEmpty : ¬scope.isEmpty = true := fun empty => narrowed (List.isEmpty_iff.mp empty)
  rw [apply, if_neg notEmpty, if_pos blank]

theorem apply_of_not_blank {scope : Scope} {fragment : String} (narrowed : scope.clauses ≠ [])
    (notBlank : isBlankText fragment = false) :
    scope.apply fragment = joinParts " AND " [fragment, scope.clause] := by
  have notEmpty : ¬scope.isEmpty = true := fun empty => narrowed (List.isEmpty_iff.mp empty)
  rw [apply, if_neg notEmpty, notBlank, if_neg Bool.false_ne_true]
  change _ = "(" ++ fragment ++ ")" ++ " AND " ++ ("(" ++ scope.clause ++ ")")
  simp only [← String.toList_inj, String.toList_append, List.append_assoc]
  rfl

/-- The constraints of a scope together with what a fragment says. -/
theorem exists_read_apply {scope : Scope} {conditions : List Condition} {fragment : String}
    {more : List Condition} (narrowed : scope.clauses ≠ [])
    (readEach : scope.clauses.map Condition.read = conditions.map some)
    (statedFragment : stated fragment = some more) :
    ∃ whole, Condition.read (scope.apply fragment) = some whole ∧
      ∀ valuation, whole.value valuation =
        Truth.all ((more ++ conditions).map (value valuation)) := by
  obtain ⟨first, others, clauses⟩ := List.exists_cons_of_ne_nil narrowed
  rw [clauses] at readEach
  obtain ⟨joined, joinedRead, joinedValue⟩ := exists_read_joinParts readEach
  rw [← clauses] at joinedRead
  unfold stated at statedFragment
  cases blank : isBlankText fragment with
  | true =>
      rw [blank, if_pos rfl] at statedFragment
      cases statedFragment
      exact ⟨joined, by rw [apply_of_blank narrowed blank]; exact joinedRead, joinedValue⟩
  | false =>
      rw [blank, if_neg Bool.false_ne_true] at statedFragment
      obtain ⟨condition, fragmentRead, rfl⟩ := Option.map_eq_some_iff.mp statedFragment
      have readBoth : [fragment, scope.clause].map Condition.read =
          [condition, joined].map some := by
        rw [List.map_cons, fragmentRead, List.map_cons, clause, joinedRead]
        rfl
      obtain ⟨whole, wholeRead, wholeValue⟩ := exists_read_joinParts readBoth
      refine ⟨whole, by rw [apply_of_not_blank narrowed blank]; exact wholeRead, fun valuation => ?_⟩
      rw [wholeValue, List.map_append, Truth.all_append, ← joinedValue]
      change (condition.value valuation).and ((joined.value valuation).and .holds) =
        ((condition.value valuation).and .holds).and (joined.value valuation)
      rw [Truth.and_holds, Truth.and_holds]

/-! ### The constraint of a context -/

def mentionTokens : List Token :=
  [.closing .round, .sign '<', .sign '-', .opening .square, .sign ':', .word "MENTIONS".toList,
    .closing .square, .sign '-', .opening .round, .sign ':', .word "Proposition".toList,
    .opening .curly, .word "contextId".toList, .sign ':', .word "$_scope_context_id".toList,
    .closing .curly, .closing .round, .closing .curly]

private theorem tokens_contextClause (aliasName : Identifier) :
    tokens (contextClause aliasName).toList = some (.word "EXISTS".toList :: .opening .curly ::
      .opening .round :: .word aliasName.word :: mentionTokens) := by
  have before : tokens "EXISTS \x7b".toList = some [.word "EXISTS".toList, .opening .curly] := by
    decide +kernel
  have behind : tokens (')' ::
      "<-[:MENTIONS]-(:Proposition \x7bcontextId: $_scope_context_id\x7d) \x7d".toList) =
        some mentionTokens := by
    decide +kernel
  have inside := tokens_append (tokens_identifier aliasName) behind (by decide +kernel)
    (by decide) (by decide +kernel)
  have node : tokens ('(' :: (aliasName.name.toList ++ ')' ::
      "<-[:MENTIONS]-(:Proposition \x7bcontextId: $_scope_context_id\x7d) \x7d".toList)) =
        some (.opening .round :: .word aliasName.word :: mentionTokens) := by
    rw [tokens_opening, inside]
    rfl
  rw [toList_contextClause]
  exact tokens_append_blank before node (by decide +kernel) (by decide)

/-- Whatever the alias is, the constraint of a context is one atom. -/
theorem read_contextClause (aliasName : Identifier) :
    ∃ atom, Condition.read (contextClause aliasName) = some (.atom atom) := by
  obtain ⟨within, inner, nested⟩ : ∃ within inner,
      nestWith [] [] (.word "EXISTS".toList :: .opening .curly :: .opening .round ::
        .word aliasName.word :: mentionTokens) =
        some [.single (.word "EXISTS".toList), .group .curly within inner] :=
    ⟨_, _, rfl⟩
  have plain : ∀ item ∈ [Item.single (.word "EXISTS".toList), .group .curly within inner],
      item.isPlain = true :=
    List.forall_mem_cons.mpr ⟨by decide, List.forall_mem_singleton.mpr rfl⟩
  refine ⟨itemTokens [.single (.word "EXISTS".toList), .group .curly within inner], ?_⟩
  rw [Condition.read, parts, items, tokens_contextClause, Option.bind_some, nested,
    Option.bind_some, disjuncts_of_plain plain (.inl (List.cons_ne_nil _ _))]
  rfl

/-! ### Composition -/

private theorem read_of_narrow {scope next : Scope} {step : Narrowing}
    (narrowed : scope.narrow step = .ok next)
    (wellFormed : ∀ text parameters, step = .constraint text parameters →
      ∃ condition, Condition.read text = some condition) :
    ∃ condition, Condition.read step.text = some condition := by
  cases step with
  | constraint text parameters => exact wellFormed text parameters rfl
  | mentioned context aliasName =>
      change scope.scopedToContext context aliasName = .ok next at narrowed
      unfold scopedToContext at narrowed
      simp only [Narrowing.text]
      cases named : Identifier.ofValue "node alias" aliasName with
      | error fault =>
          rw [named] at narrowed
          cases narrowed
      | ok aliasName =>
          obtain ⟨atom, read⟩ := read_contextClause aliasName
          exact ⟨.atom atom, read⟩

/-- Where the constraints that were given are conditions, all those that were added are. -/
theorem read_of_narrowAll {scope last : Scope} {steps : List Narrowing}
    (narrowed : scope.narrowAll steps = .ok last)
    (wellFormed : ∀ text parameters, .constraint text parameters ∈ steps →
      ∃ condition, Condition.read text = some condition) :
    ∃ conditions : List Condition,
      steps.map (fun step => Condition.read step.text) = conditions.map some := by
  induction steps generalizing scope with
  | nil => exact ⟨[], rfl⟩
  | cons step steps ih =>
      obtain ⟨next, first, rest⟩ := of_narrowAll_cons narrowed
      obtain ⟨conditions, others⟩ := ih rest (fun text parameters member =>
        wellFormed text parameters (List.mem_cons_of_mem step member))
      obtain ⟨condition, read⟩ := read_of_narrow first (fun text parameters same =>
        wellFormed text parameters (same ▸ List.mem_cons_self))
      refine ⟨condition :: conditions, ?_⟩
      rw [List.map_cons, List.map_cons, read, others]

/-- The clause of a scope that was narrowed at least once, composed with a compiled filter and
a fragment, is the conjunction of all constraints that were ever added and of what the filter
and the fragment say together. In particular, no constraint is ever lost. -/
theorem withFilter_conjunction {steps : List Narrowing} {scope : Scope}
    (narrowed : Scope.empty.narrowAll steps = .ok scope) (nonempty : steps ≠ [])
    (wellFormed : ∀ text parameters, .constraint text parameters ∈ steps →
      ∃ condition, Condition.read text = some condition)
    {compiled : WhereClause} {fragment : String} {more : List Condition}
    (statedFragment : stated (compiled.appendTo fragment) = some more)
    {result : WhereClause} (composed : scope.withFilter compiled fragment = .ok result) :
    ∃ conditions whole,
      steps.map (fun step => Condition.read step.text) = conditions.map some ∧
      Condition.read result.text = some whole ∧
      (∀ valuation, whole.value valuation =
        Truth.all ((more ++ conditions).map (value valuation))) ∧
      ∀ valuation, whole.value valuation = .holds →
        ∀ condition ∈ conditions, condition.value valuation = .holds := by
  obtain ⟨conditions, readEach⟩ := read_of_narrowAll narrowed wellFormed
  have clauses := clauses_of_narrowAll narrowed
  rw [show Scope.empty.clauses = [] from rfl, List.nil_append] at clauses
  have notEmpty : scope.clauses ≠ [] := by
    rw [clauses]
    exact fun noClauses => nonempty (List.map_eq_nil_iff.mp noClauses)
  have readClauses : scope.clauses.map Condition.read = conditions.map some := by
    rw [clauses, List.map_map]
    exact readEach
  obtain ⟨whole, wholeRead, wholeValue⟩ := exists_read_apply notEmpty readClauses statedFragment
  refine ⟨conditions, whole, readEach, ?_, wholeValue, ?_⟩
  · rw [((withFilter_eq_ok_iff _ _ _ _).mp composed).2]
    exact wholeRead
  · intro valuation holds condition member
    rw [wholeValue] at holds
    have inside : condition ∈ more ++ conditions := List.mem_append_right more member
    exact Truth.eq_holds_of_all holds _ (List.mem_map_of_mem inside)

def openText : String := "m.open = true OR m.owner = $me"

def openSteps : List Narrowing :=
  [.constraint openText [("me", .text "alice")], .mentioned (.text "ctx-42") (.text "m")]

def openScope : Scope :=
  { clauses := [openText, contextClause ⟨"m", by decide⟩]
    parameters := [("me", .text "alice"), (contextParameter, .text "ctx-42")] }

def openCondition : Condition :=
  .any (.atom [.word "m.open".toList, .sign '=', .word "true".toList])
    [.atom [.word "m.owner".toList, .sign '=', .word "$me".toList]]

private theorem read_openText : Condition.read openText = some openCondition := by
  have scanned : tokens openText.toList = some [.word "m.open".toList, .sign '=',
      .word "true".toList, .word "OR".toList, .word "m.owner".toList, .sign '=',
      .word "$me".toList] := by
    decide +kernel
  rw [Condition.read, parts, items, scanned]
  rfl

private def scoreText : String := "m.score >= $_filter_0"

private def scoreClause : WhereClause :=
  { text := scoreText, parameters := [("_filter_0", .int 3)] }

private def scoreCondition : Condition :=
  .atom [.word "m.score".toList, .sign '>', .sign '=', .word "$_filter_0".toList]

private theorem read_scoreText : Condition.read scoreText = some scoreCondition := by
  have scanned : tokens scoreText.toList = some [.word "m.score".toList, .sign '>', .sign '=',
      .word "$_filter_0".toList] := by
    decide +kernel
  rw [Condition.read, parts, items, scanned]
  rfl

theorem withFilter_conjunction_openScope :
    Scope.empty.narrowAll openSteps = .ok openScope ∧
      stated (scoreClause.appendTo " ") = some [scoreCondition] ∧
      ∃ result conditions whole, openScope.withFilter scoreClause " " = .ok result ∧
        openSteps.map (fun step => Condition.read step.text) = conditions.map some ∧
        Condition.read result.text = some whole ∧
        ∀ valuation, whole.value valuation =
          Truth.all ((scoreCondition :: conditions).map (value valuation)) := by
  have narrowed : Scope.empty.narrowAll openSteps = .ok openScope := rfl
  have wellFormed : ∀ text parameters, .constraint text parameters ∈ openSteps →
      ∃ condition, Condition.read text = some condition := by
    intro text parameters member
    rcases List.mem_cons.mp member with same | member
    · cases same
      exact ⟨openCondition, read_openText⟩
    · cases List.mem_singleton.mp member
  have statedFragment : stated (scoreClause.appendTo " ") = some [scoreCondition] := by
    have notBlank : isBlankText scoreText = false := by decide +kernel
    change stated scoreText = _
    rw [stated, notBlank, if_neg Bool.false_ne_true, read_scoreText]
    rfl
  have composed : ∃ result, openScope.withFilter scoreClause " " = .ok result := ⟨_, rfl⟩
  obtain ⟨result, composed⟩ := composed
  obtain ⟨conditions, whole, readEach, read, wholeValue, _⟩ :=
    withFilter_conjunction narrowed (List.cons_ne_nil _ _) wellFormed statedFragment composed
  exact ⟨narrowed, statedFragment, result, conditions, whole, composed, readEach, read, wholeValue⟩

end Scope

end QueryWarden
