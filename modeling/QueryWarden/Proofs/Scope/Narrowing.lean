/-
Scopes that are narrowed step by step. A step gives a constraint with its parameters, or
asks for the context that an entity is mentioned in. What one step does to a scope is said
once; from it follows what a scope looks like after any number of steps.
-/

import QueryWarden.Scope

namespace QueryWarden

open Text

/-- A step that narrows a scope. -/
inductive Narrowing where
  | constraint (text : String) (parameters : Bindings)
  | mentioned (context aliasName : Value)

namespace Narrowing

def text : Narrowing → String
  | .constraint text _ => text
  | .mentioned _ aliasName =>
      match Identifier.ofValue "node alias" aliasName with
      | .ok aliasName => Scope.contextClause aliasName
      | .error _ => ""

def parameters : Narrowing → Bindings
  | .constraint _ parameters => parameters
  | .mentioned context _ => [(Scope.contextParameter, context)]

/-- Whether an alias that is refused can be told of. -/
def CanBeTold : Narrowing → Prop
  | .constraint _ _ => True
  | .mentioned _ aliasName => ∃ written, aliasName.written? = some written

end Narrowing

namespace Scope

def narrow (scope : Scope) : Narrowing → Except Fault Scope
  | .constraint text parameters => scope.narrowedBy text parameters
  | .mentioned context aliasName => scope.scopedToContext context aliasName

/-- All steps, one after the other, up to the first that fails. -/
def narrowAll (scope : Scope) (steps : List Narrowing) : Except Fault Scope :=
  steps.foldlM narrow scope

theorem narrowedBy_eq_ok_iff (scope next : Scope) (constraint : String) (parameters : Bindings) :
    scope.narrowedBy constraint parameters = .ok next ↔
      checkNames parameters = .ok () ∧ isBlankText constraint = false ∧
        Bindings.merge scope.parameters parameters = .ok next.parameters ∧
          next.clauses = scope.clauses ++ [constraint] := by
  unfold narrowedBy
  cases checkNames parameters with
  | error fault => simp
  | ok done =>
      cases isBlankText constraint with
      | true => simp
      | false =>
          cases Bindings.merge scope.parameters parameters with
          | error fault => simp
          | ok merged =>
              obtain ⟨clauses, bound⟩ := next
              simp [and_comm, eq_comm]

theorem toList_contextClause (aliasName : Identifier) :
    (contextClause aliasName).toList = "EXISTS \x7b".toList ++ ' ' :: '(' ::
      (aliasName.name.toList ++ ')' ::
        "<-[:MENTIONS]-(:Proposition \x7bcontextId: $_scope_context_id\x7d) \x7d".toList) := by
  have start : "EXISTS \x7b (".toList = "EXISTS \x7b".toList ++ [' ', '('] := by decide +kernel
  have finish : ")<-[:MENTIONS]-(:Proposition \x7bcontextId: $".toList ++
      ("_scope_context_id".toList ++ "\x7d) \x7d".toList) = ')' ::
        "<-[:MENTIONS]-(:Proposition \x7bcontextId: $_scope_context_id\x7d) \x7d".toList := by
    decide +kernel
  rw [contextClause, contextParameter, String.toList_append, String.toList_append,
    String.toList_append, String.toList_append, start, List.append_assoc, List.append_assoc,
    List.append_assoc, List.append_assoc, finish, List.cons_append, List.cons_append,
    List.nil_append]

/-- What a step asks of a scope: that its own parts are in order, and that what the scope binds
agrees with what the step binds. -/
theorem narrow_eq_ok_iff (scope next : Scope) (step : Narrowing) :
    scope.narrow step = .ok next ↔
      checkNames step.parameters = .ok () ∧ isBlankText step.text = false ∧
        Bindings.merge scope.parameters step.parameters = .ok next.parameters ∧
          next.clauses = scope.clauses ++ [step.text] := by
  cases step with
  | constraint text parameters => exact narrowedBy_eq_ok_iff scope next text parameters
  | mentioned context aliasName =>
      change scope.scopedToContext context aliasName = .ok next ↔ _
      unfold scopedToContext
      simp only [Narrowing.text]
      cases Identifier.ofValue "node alias" aliasName with
      | error fault =>
          have wordless : isBlankText "" = true := rfl
          simp [wordless]
      | ok aliasName =>
          exact narrowedBy_eq_ok_iff scope next (contextClause aliasName)
            [(contextParameter, context)]

theorem of_narrow_eq_ok {scope next : Scope} {step : Narrowing}
    (narrowed : scope.narrow step = .ok next) :
    isBlankText step.text = false ∧
      Bindings.merge scope.parameters step.parameters = .ok next.parameters ∧
        next.clauses = scope.clauses ++ [step.text] :=
  ((narrow_eq_ok_iff scope next step).mp narrowed).2

theorem narrowAll_cons (scope : Scope) (step : Narrowing) (steps : List Narrowing) :
    scope.narrowAll (step :: steps) = scope.narrow step >>= fun next => next.narrowAll steps :=
  List.foldlM_cons

theorem of_narrowAll_cons {scope last : Scope} {step : Narrowing} {steps : List Narrowing}
    (narrowed : scope.narrowAll (step :: steps) = .ok last) :
    ∃ next, scope.narrow step = .ok next ∧ next.narrowAll steps = .ok last := by
  rw [narrowAll_cons] at narrowed
  cases first : scope.narrow step with
  | error fault =>
      rw [first] at narrowed
      cases narrowed
  | ok next =>
      rw [first] at narrowed
      exact ⟨next, rfl, narrowed⟩

/-- After any number of steps a scope has the constraints of all of them, in their order. -/
theorem clauses_of_narrowAll {scope last : Scope} {steps : List Narrowing}
    (narrowed : scope.narrowAll steps = .ok last) :
    last.clauses = scope.clauses ++ steps.map Narrowing.text := by
  induction steps generalizing scope with
  | nil =>
      cases narrowed
      exact (List.append_nil _).symm
  | cons step steps ih =>
      obtain ⟨next, first, rest⟩ := of_narrowAll_cons narrowed
      rw [ih rest, (of_narrow_eq_ok first).2.2, List.append_assoc]
      rfl

theorem withFilter_eq_ok_iff (scope : Scope) (compiled : WhereClause) (condition : String)
    (result : WhereClause) :
    scope.withFilter compiled condition = .ok result ↔
      Bindings.merge compiled.parameters scope.parameters = .ok result.parameters ∧
        result.text = scope.apply (compiled.appendTo condition) := by
  unfold withFilter
  cases Bindings.merge compiled.parameters scope.parameters with
  | error fault => simp
  | ok merged =>
      obtain ⟨text, bound⟩ := result
      simp [and_comm, eq_comm]

end Scope

end QueryWarden
