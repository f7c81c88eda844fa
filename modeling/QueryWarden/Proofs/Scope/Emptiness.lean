/-
Compositions that say nothing. A filter that compiles has a text, and no constraint of a scope
is blank, so that a composition is blank only where there is no filter, no constraint and no
fragment that says something. What is left then is the fragment as it was given. A result
counts as empty only if it has no letter at all, and a fragment of blanks has some.
-/

import QueryWarden.Proofs.Filter.Conjunction
import QueryWarden.Proofs.Scope.Conjunction

namespace QueryWarden

open Text

/-! ### Blank texts -/

theorem isBlankText_append (left right : String) :
    isBlankText (left ++ right) = (isBlankText left && isBlankText right) := by
  simp [isBlankText, allBlank]

/-- Of joined parts only one that stands alone can be blank. -/
theorem not_isBlankText_joinParts {joiner : String} {parts : List String} (nonempty : parts ≠ [])
    (notBlank : ∀ part ∈ parts, isBlankText part = false) :
    isBlankText (joinParts joiner parts) = false := by
  match parts with
  | [] => contradiction
  | [only] => exact notBlank only List.mem_cons_self
  | first :: second :: others =>
      have opening : isBlankText "(" = false := by decide
      simp [joinParts, Condition.separate_cons_cons, isBlankText_append, opening]

/-! ### Clauses of filters -/

theorem WhereClause.isEmpty_iff (clause : WhereClause) :
    clause.isEmpty = true ↔ clause.text = "" :=
  beq_iff_eq

/-- Joining makes a blank text of nothing but an empty clause and a blank fragment. -/
theorem WhereClause.isBlankText_appendTo_iff {clause : WhereClause}
    (worded : clause.isEmpty = false → isBlankText clause.text = false) (existing : String) :
    isBlankText (clause.appendTo existing) = true ↔
      clause.isEmpty = true ∧ isBlankText existing = true := by
  unfold appendTo
  cases empty : clause.isEmpty with
  | true => simp
  | false =>
      cases blank : isBlankText existing with
      | true => simp [worded empty]
      | false => simp [isBlankText_append, blank]

namespace Compiler

variable {compiler : Compiler}

private theorem not_isBlankText_of_compile {filter : Filter} {clause : WhereClause}
    (compiled : compiler.compile (some filter) = .ok clause) : isBlankText clause.text = false := by
  cases literals : filter.literals with
  | error fault =>
      rw [compiler.compile_of_fault literals] at compiled
      contradiction
  | ok values =>
      rw [compiler.compile_of_literals literals] at compiled
      cases compiled
      obtain ⟨found, reads⟩ := compiler.reads_text filter 0 (filter.not_hasBare_of_literals literals)
      exact Condition.not_isBlankText_of_parts reads.parts

/-- What was compiled is the empty clause without a filter, and else a clause that says
something. -/
theorem isEmpty_of_compile {filter? : Option Filter} {clause : WhereClause}
    (compiled : compiler.compile filter? = .ok clause) :
    (clause.isEmpty = true ↔ filter? = none) ∧
      (clause.isEmpty = false → isBlankText clause.text = false) := by
  cases filter? with
  | none =>
      cases compiled
      simp [WhereClause.isEmpty, WhereClause.empty]
  | some filter =>
      have notBlank := not_isBlankText_of_compile compiled
      have notEmpty : clause.text ≠ "" := by
        intro empty
        have wordless : isBlankText "" = true := rfl
        rw [empty, wordless] at notBlank
        contradiction
      simp [WhereClause.isEmpty_iff, notBlank, notEmpty]

end Compiler

/-! ### Scopes -/

namespace Scope

def Speaks (scope : Scope) : Prop :=
  ∀ constraint ∈ scope.clauses, isBlankText constraint = false

theorem Speaks.empty : Scope.empty.Speaks := by
  simp [Speaks, Scope.empty]

theorem Speaks.narrow {scope next : Scope} {step : Narrowing} (speaks : scope.Speaks)
    (narrowed : scope.narrow step = .ok next) : next.Speaks := by
  obtain ⟨notBlank, _, clauses⟩ := of_narrow_eq_ok narrowed
  intro constraint member
  rw [clauses, List.mem_append, List.mem_singleton] at member
  rcases member with before | rfl
  · exact speaks constraint before
  · exact notBlank

theorem Speaks.narrowAll {scope last : Scope} {steps : List Narrowing} (speaks : scope.Speaks)
    (narrowed : scope.narrowAll steps = .ok last) : last.Speaks := by
  induction steps generalizing scope with
  | nil =>
      cases narrowed
      exact speaks
  | cons step steps ih =>
      obtain ⟨next, first, rest⟩ := of_narrowAll_cons narrowed
      exact ih (speaks.narrow first) rest

private theorem apply_of_no_clauses {scope : Scope} (noClauses : scope.clauses = [])
    (fragment : String) :
    scope.apply fragment = fragment := by
  simp [apply, isEmpty, noClauses]

theorem Speaks.isBlankText_apply_iff {scope : Scope} (speaks : scope.Speaks) (fragment : String) :
    isBlankText (scope.apply fragment) = true ↔
      isBlankText fragment = true ∧ scope.clauses = [] := by
  by_cases noClauses : scope.clauses = []
  · simp [apply_of_no_clauses noClauses, noClauses]
  · cases blank : isBlankText fragment with
    | true =>
        rw [apply_of_blank noClauses blank, clause,
          not_isBlankText_joinParts noClauses speaks]
        simp [noClauses]
    | false =>
        rw [apply_of_not_blank noClauses blank]
        simp [joinParts, Condition.separate_cons_cons, isBlankText_append, blank]

/-! ### Composition -/

/-- Whether neither a filter nor a fragment nor a scope asks for anything. -/
def AsksNothing (scope : Scope) (filter? : Option Filter) (fragment : String) : Prop :=
  filter? = none ∧ isBlankText fragment = true ∧ scope.clauses = []

theorem isBlankText_withFilter_iff {scope : Scope} (speaks : scope.Speaks) {compiler : Compiler}
    {filter? : Option Filter} {compiled : WhereClause}
    (compiles : compiler.compile filter? = .ok compiled) {fragment : String} {result : WhereClause}
    (composed : scope.withFilter compiled fragment = .ok result) :
    isBlankText result.text = true ↔ scope.AsksNothing filter? fragment := by
  obtain ⟨isEmpty, worded⟩ := compiler.isEmpty_of_compile compiles
  rw [((withFilter_eq_ok_iff _ _ _ _).mp composed).2, speaks.isBlankText_apply_iff,
    WhereClause.isBlankText_appendTo_iff worded, isEmpty, and_assoc, AsksNothing]

/-- Where nothing is asked for, the fragment comes back as it is. -/
theorem AsksNothing.result_eq {steps : List Narrowing} {scope : Scope}
    (narrowed : Scope.empty.narrowAll steps = .ok scope) {compiler : Compiler}
    {filter? : Option Filter} {compiled : WhereClause}
    (compiles : compiler.compile filter? = .ok compiled) {fragment : String} {result : WhereClause}
    (composed : scope.withFilter compiled fragment = .ok result)
    (asksNothing : scope.AsksNothing filter? fragment) :
    result = { text := fragment, parameters := [] } := by
  obtain ⟨rfl, _, noClauses⟩ := asksNothing
  cases compiles
  have noSteps : steps = [] := by
    have clauses := clauses_of_narrowAll narrowed
    rw [noClauses] at clauses
    simpa [Scope.empty] using clauses.symm
  subst noSteps
  cases narrowed
  cases composed
  rfl

/-- A result is blank if and only if nothing was asked for, and then it is the fragment as it was
given. It counts as empty only if this fragment has no letter. Therefore it is empty exactly
where nothing was asked for, and never blank otherwise, unless nothing was asked for by a
fragment of blanks. -/
structure TellsEmptiness (scope : Scope) (filter? : Option Filter) (fragment : String)
    (result : WhereClause) : Prop where
  isBlank_iff : isBlankText result.text = true ↔ scope.AsksNothing filter? fragment
  alone : scope.AsksNothing filter? fragment → result = { text := fragment, parameters := [] }
  isEmpty_iff : result.isEmpty = true ↔ scope.AsksNothing filter? fragment ∧ fragment = ""
  faithful_iff : ((result.isEmpty = true ↔ scope.AsksNothing filter? fragment) ∧
      (result.isEmpty = false → isBlankText result.text = false)) ↔
    (scope.AsksNothing filter? fragment → fragment = "")

/-- What is composed with a scope that was narrowed from nothing tells whether it is empty, as
far as the fragment lets it. -/
theorem withFilter_isEmpty_iff {steps : List Narrowing} {scope : Scope}
    (narrowed : Scope.empty.narrowAll steps = .ok scope) {compiler : Compiler}
    {filter? : Option Filter} {compiled : WhereClause}
    (compiles : compiler.compile filter? = .ok compiled) {fragment : String} {result : WhereClause}
    (composed : scope.withFilter compiled fragment = .ok result) :
    scope.TellsEmptiness filter? fragment result := by
  have blank := isBlankText_withFilter_iff (Speaks.empty.narrowAll narrowed) compiles composed
  have fragmentAlone := AsksNothing.result_eq narrowed compiles composed
  have isEmpty : result.isEmpty = true ↔ scope.AsksNothing filter? fragment ∧ fragment = "" := by
    rw [result.isEmpty_iff]
    constructor
    · intro empty
      have asksNothing := blank.mp (by rw [empty]; rfl)
      rw [fragmentAlone asksNothing] at empty
      exact ⟨asksNothing, empty⟩
    · intro ⟨asksNothing, empty⟩
      rw [fragmentAlone asksNothing]
      exact empty
  refine ⟨blank, fragmentAlone, isEmpty, ?_⟩
  rw [← Bool.not_eq_true, ← Bool.not_eq_true, blank, isEmpty]
  by_cases asksNothing : scope.AsksNothing filter? fragment
  · simp [asksNothing]
  · simp [asksNothing]

def ownerFilter : Filter :=
  .compare .equal Compiler.ownerKey (.text "alice")

/-- A fragment of blanks between a filter and constraints leaves no blank clause. -/
theorem withFilter_isEmpty_openScope :
    Scope.empty.narrowAll openSteps = .ok openScope ∧
      ∃ compiled result, Compiler.standard.compile (some ownerFilter) = .ok compiled ∧
        openScope.withFilter compiled " \t" = .ok result ∧
        result.isEmpty = false ∧ isBlankText result.text = false := by
  have narrowed : Scope.empty.narrowAll openSteps = .ok openScope := rfl
  have asks : ¬openScope.AsksNothing (some ownerFilter) " \t" := by simp [AsksNothing]
  obtain ⟨compiled, compiles⟩ : ∃ compiled,
      Compiler.standard.compile (some ownerFilter) = .ok compiled := ⟨_, rfl⟩
  obtain ⟨result, composed⟩ : ∃ result, openScope.withFilter compiled " \t" = .ok result := by
    cases compiles
    exact ⟨_, rfl⟩
  have tells := withFilter_isEmpty_iff narrowed compiles composed
  refine ⟨narrowed, compiled, result, compiles, composed, ?_, ?_⟩
  · exact Bool.eq_false_iff.mpr fun empty => asks (tells.isEmpty_iff.mp empty).1
  · exact Bool.eq_false_iff.mpr fun wordless => asks (tells.isBlank_iff.mp wordless)

/-- A fragment of blanks with nothing to join it to is neither empty nor a condition. -/
theorem withFilter_blanks_not_empty :
    Compiler.standard.compile none = .ok .empty ∧ Scope.empty.narrowAll [] = .ok Scope.empty ∧
      Scope.empty.AsksNothing none "  " ∧
      ∃ result, Scope.empty.withFilter .empty "  " = .ok result ∧
        result.isEmpty = false ∧ isBlankText result.text = true := by
  exact ⟨rfl, rfl, ⟨rfl, by decide, rfl⟩, _, rfl, by decide, by decide⟩

end Scope

end QueryWarden
