/-
Programs that build filters. An operation goes by a name and takes values by position:
filters are made by short helpers or by the names of their classes, joined with
operators, read from data, compiled, and joined as clauses to fragments. The number of
values is checked before anything is done with them.
-/

import QueryWarden.Filter.Reader

namespace QueryWarden

/-- An operation on values. The mark tells apart the bare filters that it makes. -/
structure BuildOperation where
  accepts : (given : Nat) → Except CallFault Unit
  perform : (mark : Nat) → List Value → Except Fault Value

namespace BuildOperation

def value (operands : List Value) (place : Nat) : Value :=
  operands.getD place .null

/-- An operation that makes a filter. -/
def making (signature : Signature) (build : List Value → Except Fault Filter) :
    BuildOperation :=
  { accepts := signature.check
    perform := fun _ operands => (build operands).map .filter }

def binary (name : String) (perform : (left right : Value) → Except Fault Value) :
    BuildOperation :=
  { accepts := acceptExactly 2 (.notCounted name)
    perform := fun _ operands => perform (operands.getD 0 .null) (operands.getD 1 .null) }

/-- The making of a filter under the name of a helper and under that of its class. -/
def pair (helper className : String) (parameters : List String)
    (build : List Value → Except Fault Filter) : List (String × BuildOperation) :=
  [(helper, making (.plain helper parameters) build),
    (className, making (.maker className parameters) build)]

def helperName : Comparison → String
  | .equal => "eq"
  | .notEqual => "ne"
  | .greater => "gt"
  | .greaterOrEqual => "gte"
  | .less => "lt"
  | .lessOrEqual => "lte"
  | .contains => "contains"
  | .startsWith => "starts_with"
  | .endsWith => "ends_with"

def foldedHelperName : FoldedComparison → String
  | .contains => "contains_ignore_case"
  | .equal => "eq_ignore_case"

def comparisons : List (String × BuildOperation) :=
  [Comparison.equal, .notEqual, .greater, .greaterOrEqual, .less, .lessOrEqual, .contains,
    .startsWith, .endsWith].flatMap (fun comparison =>
      pair (helperName comparison) comparison.className ["key", "value"] (fun operands =>
        Filter.buildCompare comparison (value operands 0) (value operands 1)))

def foldedComparisons : List (String × BuildOperation) :=
  [FoldedComparison.contains, .equal].flatMap (fun comparison =>
    pair (foldedHelperName comparison) comparison.className ["key", "value"] (fun operands =>
      Filter.buildFolded comparison (value operands 0) (value operands 1)))

/-- Membership tests: the helper is given the values one by one or in one collection. -/
def memberships : List (String × BuildOperation) :=
  [("in_", "In", false), ("not_in", "NotIn", true)].flatMap (fun (helper, className, negated) =>
    [(helper, making (Signature.plain helper ["key"]).andMore (fun operands =>
        Filter.buildOneOf negated (value operands 0) (Filter.collect (operands.drop 1)))),
      (className, making (.maker className ["key", "values"]) (fun operands =>
        Filter.buildOneOf negated (value operands 0) (value operands 1)))])

def patterns : List (String × BuildOperation) :=
  pair "like" "MatchesPattern" ["key", "pattern"] (fun operands =>
    Filter.buildMatching (value operands 0) (value operands 1))

def labelTests : List (String × BuildOperation) :=
  [("has_any_label", making (Signature.plain "has_any_label" []).andMore (fun operands =>
      Filter.buildAnyLabel (Filter.collect operands))),
    ("HasAnyLabel", making (.maker "HasAnyLabel" ["labels"]) (fun operands =>
      Filter.buildAnyLabel (value operands 0)))]

/-- Conjunctions and disjunctions: the helper is given the parts one by one. -/
def joints : List (String × BuildOperation) :=
  [("all_of", Filter.Joint.all), ("any_of", .any)].flatMap (fun (helper, joint) =>
    [(helper, making (Signature.plain helper []).andMore (fun operands =>
        Filter.buildJoined joint (.tuple operands))),
      (joint.className, making (.maker joint.className ["filters"]) (fun operands =>
        Filter.buildJoined joint (value operands 0)))])

def negations : List (String × BuildOperation) :=
  pair "not_" "Not" ["filter"] (fun operands => Filter.buildNegation (value operands 0))

def bareFilters : List (String × BuildOperation) :=
  [BareKind.property, .entity].map (fun kind =>
    (kind.className,
      { accepts := fun given =>
          if given = 0 then .ok () else .error (.noArguments kind.className)
        perform := fun mark _ => .ok (.filter (.bare kind mark)) }))

def operatorSigns : List (String × BuildOperation) :=
  [("&", binary "and_" Filter.meet), ("|", binary "or_" Filter.join),
    ("equal", binary "eq" (fun left right => .ok (.bool (left.same right)))),
    ("~",
      { accepts := acceptExactly 1 (.notExact "_operator.invert")
        perform := fun _ operands => Filter.complement (value operands 0) })]

def reading : BuildOperation :=
  making (.plain "filter_from_dict" ["data"]) (fun operands => Filter.ofValue (value operands 0))

/-- Compiles a value; the alias and the stem may be given as well. -/
def compiling : BuildOperation :=
  { accepts := ((Signature.plain "compile_filter" ["expr"]).withOptional 2).check
    perform := fun _ operands => do
      let compiler ← Compiler.ofValues (operands.getD 1 (.text defaultAlias))
        (operands.getD 2 (.text defaultStem))
      return (GivenClause.ofClause (← compiler.compileValue (value operands 0))).toValue }

def clauseMaking : BuildOperation :=
  { accepts := ((Signature.maker "CompiledFilter" ["clause"]).withOptional 1).check
    perform := fun _ operands => do
      let clause ← accessing
        (GivenClause.ofValues (value operands 0) (operands.getD 1 (.map [])))
      return clause.toValue }

def appending : BuildOperation :=
  { accepts := (Signature.plain "CompiledFilter.append_to" ["self", "existing_clause"]).check
    perform := fun _ operands => Filter.appendTo (value operands 0) (value operands 1) }

/-- Checks that a value is an identifier; the role is that of a key unless it is given. -/
def identifierCheck : BuildOperation :=
  { accepts := ((Signature.plain "check_identifier" ["name"]).withOptional 1).check
    perform := fun _ operands =>
      match Identifier.ofValue? (value operands 0) with
      | some identifier => .ok (.text identifier.name)
      | none => do
          let role ← writing (operands.getD 1 (.text Filter.keyRole)).shown?
          Identifier.refused role (value operands 0) }

end BuildOperation

open BuildOperation in
def buildOperations : List (String × BuildOperation) :=
  comparisons ++ foldedComparisons ++ memberships ++ patterns ++ labelTests ++ joints ++
    negations ++ bareFilters ++ operatorSigns ++
    [("from_dict", reading), ("compile", compiling), ("CompiledFilter", clauseMaking),
      ("append_to", appending), ("check_identifier", identifierCheck)]

/-- Performs an operation on values whose number it accepts. -/
def BuildOperation.apply (operation : BuildOperation) (mark : Nat) (operands : List Value) :
    Except Fault Value :=
  match operation.accepts operands.length with
  | .error fault => .error (.call fault)
  | .ok () => operation.perform mark operands

end QueryWarden
