/-
Filters without their values. What is left of a filter once all values are taken out of it
is its outline: the kinds of its parts, their keys and how the parts stand in one another.
The outline alone decides the text of a clause and the names of its parameters.
-/

import QueryWarden.Proofs.Filter.Meaning

namespace QueryWarden

mutual

/-- A filter in which every value, pattern and label has made way for the same nothing. -/
def Filter.outline : Filter → Filter
  | .compare comparison key _ => .compare comparison key .null
  | .compareFolded comparison key _ => .compareFolded comparison key .null
  | .oneOf negated key _ => .oneOf negated key []
  | .matching key _ => .matching key .null
  | .anyLabel _ _ => .anyLabel .null []
  | .all first others => .all first.outline (Filter.outlines others)
  | .any first others => .any first.outline (Filter.outlines others)
  | .negation part => .negation part.outline
  | .bare kind _ => .bare kind 0
termination_by structural filter => filter

def Filter.outlines : List Filter → List Filter
  | [] => []
  | part :: parts => part.outline :: Filter.outlines parts
termination_by structural parts => parts

end

mutual

theorem Filter.leaves_outline (filter : Filter) : filter.outline.leaves = filter.leaves := by
  match filter with
  | .all first others | .any first others =>
      simp only [Filter.outline, Filter.leaves, first.leaves_outline,
        Filter.leavesOf_outlines others]
  | .negation part => exact part.leaves_outline
  | .compare _ _ _ | .compareFolded _ _ _ | .oneOf _ _ _ | .matching _ _ | .anyLabel _ _
  | .bare _ _ => rfl
termination_by structural filter

theorem Filter.leavesOf_outlines (filters : List Filter) :
    Filter.leavesOf (Filter.outlines filters) = Filter.leavesOf filters := by
  match filters with
  | [] => rfl
  | filter :: filters =>
      simp only [Filter.outlines, Filter.leavesOf, filter.leaves_outline,
        Filter.leavesOf_outlines filters]
termination_by structural filters

end

mutual

/-- A filter that can be compiled binds one literal for each of its leaves. -/
theorem Filter.length_literals (filter : Filter) {values : List Value}
    (literals : filter.literals = .ok values) : values.length = filter.leaves := by
  match filter with
  | .compare _ _ _ | .oneOf _ _ _ | .matching _ _ =>
      cases literals
      rfl
  | .compareFolded _ _ _ =>
      obtain ⟨_, _, rfl⟩ := Filter.literals_compareFolded_eq_ok_iff.mp literals
      rfl
  | .anyLabel first others =>
      unfold Filter.literals at literals
      cases sorted : Value.sort (first :: others) with
      | error fault =>
          rw [sorted] at literals
          cases literals
      | ok labels =>
          rw [sorted] at literals
          cases literals
          rfl
  | .all first others | .any first others =>
      obtain ⟨firstValues, moreValues, firstLiterals, otherLiterals, rfl⟩ :=
        Filter.of_joinLiterals_eq_ok literals
      rw [List.length_append, first.length_literals firstLiterals,
        Filter.length_literalsOf others otherLiterals]
      rfl
  | .negation part => exact part.length_literals literals
  | .bare _ _ => cases literals
termination_by structural filter

theorem Filter.length_literalsOf (filters : List Filter) {values : List Value}
    (literals : Filter.literalsOf filters = .ok values) :
    values.length = Filter.leavesOf filters := by
  match filters with
  | [] =>
      cases literals
      rfl
  | filter :: filters =>
      obtain ⟨firstValues, moreValues, firstLiterals, otherLiterals, rfl⟩ :=
        Filter.of_joinLiterals_eq_ok literals
      rw [List.length_append, filter.length_literals firstLiterals,
        Filter.length_literalsOf filters otherLiterals]
      rfl
termination_by structural filters

end

namespace Compiler

variable (compiler : Compiler)

mutual

/-- The text of a filter is that of its outline, whatever number its first leaf has. -/
theorem text_outline (filter : Filter) (index : Nat) :
    compiler.text filter.outline index = compiler.text filter index := by
  match filter with
  | .all first others | .any first others =>
      have firstText := text_outline first index
      have otherTexts := texts_outlines others (index + first.leaves)
      unfold Filter.outline text
      rw [first.leaves_outline, firstText, otherTexts]
  | .negation part =>
      have partText := text_outline part index
      unfold Filter.outline text
      rw [partText]
  | .compare _ _ _ | .compareFolded _ _ _ | .oneOf _ _ _ | .matching _ _ =>
      unfold Filter.outline text
      rfl
  | .anyLabel _ _ | .bare _ _ => rfl
termination_by structural filter

private theorem texts_outlines (filters : List Filter) (index : Nat) :
    compiler.texts (Filter.outlines filters) index = compiler.texts filters index := by
  match filters with
  | [] => rfl
  | filter :: filters =>
      have firstText := text_outline filter index
      have otherTexts := texts_outlines filters (index + filter.leaves)
      simp only [Filter.outlines, texts, filter.leaves_outline, firstText, otherTexts]
termination_by structural filters

end

private theorem names_bind (values : List Value) (index : Nat) :
    Bindings.names (compiler.bind values index) =
      (List.range' index values.length).map compiler.parameter := by
  induction values generalizing index with
  | nil => rfl
  | cons value values ih => exact congrArg (List.cons _) (ih (index + 1))

/-- The clause of a filter: its text and the names of its parameters come from the outline. -/
theorem compile_outline {filter : Filter} {clause : WhereClause}
    (compiled : compiler.compile (some filter) = .ok clause) :
    clause.text = compiler.text filter.outline 0 ∧
      Bindings.names clause.parameters =
        (List.range' 0 filter.outline.leaves).map compiler.parameter := by
  unfold compile at compiled
  cases literals : filter.literals with
  | error fault =>
      simp only [literals] at compiled
      cases compiled
  | ok values =>
      simp only [literals] at compiled
      cases compiled
      refine ⟨(compiler.text_outline filter 0).symm, ?_⟩
      rw [names_bind, filter.length_literals literals, filter.leaves_outline]

end Compiler

end QueryWarden
