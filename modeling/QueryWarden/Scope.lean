/-
Scopes: constraints that narrow every query of a caller, with the parameters they
refer to. A scope only ever grows. Its clause joins all constraints, and combining it
with a filter keeps both in parentheses.
-/

import QueryWarden.Filter.Compile

namespace QueryWarden

open Text

structure Scope where
  clauses : List String
  parameters : Bindings

namespace Scope

def empty : Scope :=
  { clauses := [], parameters := [] }

def isEmpty (scope : Scope) : Bool :=
  scope.clauses.isEmpty

/-- A single constraint stands alone; several are put in parentheses and joined. -/
def clause (scope : Scope) : String :=
  joinParts " AND " scope.clauses

/-- Names that a parameter cannot have, because the operation uses them itself. -/
def takenNames : List String :=
  ["self", "constraint"]

def checkNames (parameters : Bindings) : Except CallFault Unit :=
  match (Bindings.names parameters).find? takenNames.contains with
  | some name => .error (.namedTwice "QueryScope.narrowed_by" name)
  | none => .ok ()

/-- Adds a constraint and its parameters. A name may be bound again to an equal value. -/
def narrowedBy (scope : Scope) (constraint : String) (parameters : Bindings) :
    Except Fault Scope :=
  match checkNames parameters with
  | .error fault => .error (.call fault)
  | .ok () =>
      if isBlankText constraint then .error (.filter .blankConstraint)
      else
        match Bindings.merge scope.parameters parameters with
        | .ok merged => .ok { clauses := scope.clauses ++ [constraint], parameters := merged }
        | .error fault => .error (.filter fault)

def contextParameter : String := "_scope_context_id"

/-- A proposition of the context mentions the node that goes by the alias. -/
def contextClause (aliasName : Identifier) : String :=
  "EXISTS \x7b (" ++ aliasName.name ++ ")<-[:MENTIONS]-(:Proposition \x7bcontextId: $" ++
    contextParameter ++ "\x7d) \x7d"

def defaultAlias : Value := .text "n"

def scopedToContext (scope : Scope) (context aliasName : Value) : Except Fault Scope :=
  match Identifier.ofValue "node alias" aliasName with
  | .ok aliasName => scope.narrowedBy (contextClause aliasName) [(contextParameter, context)]
  | .error fault => .error fault

def apply (scope : Scope) (condition : String) : String :=
  if scope.isEmpty then condition
  else if isBlankText condition then scope.clause
  else "(" ++ condition ++ ") AND (" ++ scope.clause ++ ")"

def withFilter (scope : Scope) (compiled : WhereClause) (condition : String) :
    Except FilterFault WhereClause :=
  match Bindings.merge compiled.parameters scope.parameters with
  | .ok merged =>
      .ok { text := scope.apply (compiled.appendTo condition), parameters := merged }
  | .error fault => .error fault

end Scope

end QueryWarden
