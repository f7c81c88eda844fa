/-
The kinds of filter: how a property is compared, and which filters name no predicate.
Each kind has the name under which messages and answers speak of it.
-/

namespace QueryWarden

inductive Comparison where
  | equal
  | notEqual
  | greater
  | greaterOrEqual
  | less
  | lessOrEqual
  | contains
  | startsWith
  | endsWith
deriving DecidableEq

inductive FoldedComparison where
  | contains
  | equal
deriving DecidableEq

/-- Filters that name no predicate and cannot be compiled. -/
inductive BareKind where
  | property
  | entity
deriving DecidableEq

def Comparison.className : Comparison → String
  | .equal => "Eq"
  | .notEqual => "Ne"
  | .greater => "Gt"
  | .greaterOrEqual => "Gte"
  | .less => "Lt"
  | .lessOrEqual => "Lte"
  | .contains => "Contains"
  | .startsWith => "StartsWith"
  | .endsWith => "EndsWith"

def FoldedComparison.className : FoldedComparison → String
  | .contains => "ContainsIgnoreCase"
  | .equal => "EqIgnoreCase"

def BareKind.className : BareKind → String
  | .property => "PropertyFilter"
  | .entity => "EntityFilter"

end QueryWarden
