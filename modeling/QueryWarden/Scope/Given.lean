/-
Scopes and values. Constraints, conditions and clauses that come from outside may be
of any type; where a text is needed, anything else is refused. On texts and compiled
clauses each operation is the one that scopes have for them.
-/

import QueryWarden.Filter.Given
import QueryWarden.Scope

namespace QueryWarden

namespace Scope

def namedParameters (value : Value) : Except AccessFault Bindings :=
  match value with
  | .map entries => .ok entries
  | value => .error (.notNamed "cypherguard.scope.QueryScope.narrowed_by" value.typeName)

/-- Adds a constraint that is not known to be a text; the names of the parameters are
looked at first. -/
def narrowedByValue (scope : Scope) (constraint : Value) (parameters : Bindings) :
    Except Fault Scope := do
  (checkNames parameters).mapError .call
  let constraint ← accessing (constraint.textFor "strip")
  scope.narrowedBy constraint parameters

def contextSignature : Signature :=
  (Signature.method "QueryScope.scoped_to_context" ["context_id"]).withOptional 1

def scopedByArguments (scope : Scope) (arguments : List Value) : Except Fault Scope := do
  checkArguments contextSignature arguments.length
  scope.scopedToContext (arguments.getD 0 .null) (arguments.getD 1 defaultAlias)

/-- A condition together with the constraints of the scope; without constraints any
condition is let be. -/
def applyTo (scope : Scope) (condition : Value) : Except AccessFault Value :=
  if scope.isEmpty then .ok condition
  else (condition.textFor "strip").map (fun condition => .text (scope.apply condition))

/-- The first name that the parameters of the scope bind to another value. -/
def conflict? (parameters : Pairs) : Bindings → Option String
  | [] => none
  | (name, value) :: rest =>
      match Pairs.get? (.text name) parameters with
      | some old => if old.same value then conflict? parameters rest else some name
      | none => conflict? parameters rest

def withGiven (scope : Scope) (clause : GivenClause) (condition : Value) :
    Except Fault GivenClause := do
  let text ← accessing (scope.applyTo (← clause.appendTo condition))
  match conflict? clause.parameters scope.parameters with
  | some name => .error (.filter (.boundTwice name))
  | none =>
      return { text := text
               parameters := Pairs.override clause.parameters (Pairs.ofTexts scope.parameters) }

/-! ### Agreement on texts -/

theorem narrowedByValue_text (scope : Scope) (constraint : String) (parameters : Bindings) :
    scope.narrowedByValue (.text constraint) parameters =
      scope.narrowedBy constraint parameters := by
  unfold narrowedByValue narrowedBy
  cases checkNames parameters with
  | error fault => rfl
  | ok done => rfl

theorem applyTo_text (scope : Scope) (condition : String) :
    scope.applyTo (.text condition) = .ok (.text (scope.apply condition)) := by
  by_cases empty : scope.isEmpty = true
  · rw [applyTo, apply, if_pos empty, if_pos empty]
  · rw [applyTo, if_neg empty]
    rfl

theorem get?_ofTexts (name : String) (bindings : Bindings) :
    Pairs.get? (.text name) (Pairs.ofTexts bindings) = bindings.lookup name := by
  induction bindings with
  | nil => rfl
  | cons entry rest ih =>
      obtain ⟨other, value⟩ := entry
      by_cases here : other = name
      · subst here
        rw [List.lookup_cons, beq_self_eq_true]
        unfold Pairs.get? Pairs.ofTexts
        rw [List.map_cons, List.find?_cons_of_pos]
        · rfl
        · rw [Value.agrees_text, beq_self_eq_true]
      · have away : (name == other) = false := beq_eq_false_iff_ne.mpr (fun same => here same.symm)
        rw [List.lookup_cons, away, ← ih]
        unfold Pairs.get? Pairs.ofTexts
        rw [List.map_cons, List.find?_cons_of_neg]
        rw [Value.agrees_text, beq_iff_eq]
        exact here

theorem put_ofTexts (name : String) (value : Value) (bindings : Bindings) :
    Pairs.put (.text name) value (Pairs.ofTexts bindings) =
      Pairs.ofTexts (Bindings.put name value bindings) := by
  induction bindings with
  | nil => rfl
  | cons entry rest ih =>
      obtain ⟨other, old⟩ := entry
      change (if (Value.text other).agrees (.text name) = true
        then (Value.text other, value) :: Pairs.ofTexts rest
        else (Value.text other, old) :: Pairs.put (.text name) value (Pairs.ofTexts rest)) = _
      rw [Value.agrees_text]
      by_cases here : other = name
      · rw [if_pos (beq_iff_eq.mpr here), Bindings.put, if_pos here, here]
        rfl
      · rw [if_neg (fun same => here (beq_iff_eq.mp same)), Bindings.put, if_neg here, ih]
        rfl

theorem override_ofTexts (left right : Bindings) :
    Pairs.override (Pairs.ofTexts left) (Pairs.ofTexts right) =
      Pairs.ofTexts (Bindings.override left right) := by
  induction right generalizing left with
  | nil => rfl
  | cons entry rest ih =>
      obtain ⟨name, value⟩ := entry
      change Pairs.override (Pairs.put (.text name) value (Pairs.ofTexts left))
        (Pairs.ofTexts rest) = Pairs.ofTexts (Bindings.override (Bindings.put name value left) rest)
      rw [put_ofTexts, ih]

theorem conflict?_ofTexts (left right : Bindings) :
    conflict? (Pairs.ofTexts left) right = Bindings.conflict? left right := by
  induction right with
  | nil => rfl
  | cons entry rest ih =>
      obtain ⟨name, value⟩ := entry
      rw [conflict?, Bindings.conflict?, get?_ofTexts]
      cases left.lookup name with
      | none => exact ih
      | some old =>
          change (if old.same value = true then _ else _) =
            (if old.same value = true then _ else _)
          by_cases agree : old.same value = true
          · rw [if_pos agree, if_pos agree, ih]
          · rw [if_neg agree, if_neg agree]

/-- On a compiled clause and a text this is the filtering of a scope. -/
theorem withGiven_ofClause (scope : Scope) (clause : WhereClause) (condition : String) :
    scope.withGiven (.ofClause clause) (.text condition) =
      ((scope.withFilter clause condition).map GivenClause.ofClause).mapError Fault.filter := by
  unfold withGiven withFilter Bindings.merge
  rw [GivenClause.appendTo_ofClause]
  change (accessing (scope.applyTo (.text (clause.appendTo condition))) >>= _) = _
  rw [applyTo_text]
  change (match conflict? (Pairs.ofTexts clause.parameters) scope.parameters with
    | some name => _
    | none => _) = _
  rw [conflict?_ofTexts]
  cases Bindings.conflict? clause.parameters scope.parameters with
  | some name => rfl
  | none =>
      change Except.ok _ = Except.ok _
      refine congrArg Except.ok ?_
      change GivenClause.mk _ (Pairs.override (Pairs.ofTexts clause.parameters) _) = _
      rw [override_ofTexts]
      rfl

end Scope

end QueryWarden
