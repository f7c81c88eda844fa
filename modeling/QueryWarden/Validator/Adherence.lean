/-
Adherence to a schema: the labels and relationship types of a query have to be
declared. What a query uses beyond its schema is found once; a strict check refuses
the first finding, a lenient one lets the query pass and gives all of them as warnings.
-/

import QueryWarden.Fault
import QueryWarden.Query.Pattern
import QueryWarden.Schema.Basic

namespace QueryWarden

namespace Adherence

/-- Names of one kind that a query uses and a schema does not declare. -/
structure Finding where
  kind : String
  unknown : List String
  known : List String
deriving DecidableEq

def Finding.message (finding : Finding) : String :=
  undeclaredWording (.text finding.kind) (writtenTexts finding.unknown) (writtenTexts finding.known)

def Finding.rejection (finding : Finding) : Rejection :=
  .undeclared (.text finding.kind) (finding.unknown.map .text) (finding.known.map .text)
    finding.message

def undeclared (used known : List String) : List String :=
  used.filter (fun name => !known.contains name)

def findingsOf (kind : String) (used known : List String) : List Finding :=
  let unknown := undeclared used known
  if unknown.isEmpty then [] else [{ kind := kind, unknown := unknown, known := known }]

/-- Labels come before relationship types. -/
def findings (schema : Schema) (query : Query) : List Finding :=
  findingsOf "entity" query.labels schema.allLabels ++
    findingsOf "relationship" query.relationshipTypes schema.relationshipNames

def strict (schema : Schema) (query : Query) : Except Rejection Unit :=
  match findings schema query with
  | [] => .ok ()
  | finding :: _ => .error finding.rejection

def warnings (schema : Schema) (query : Query) : List String :=
  (findings schema query).map Finding.message

/-- The strict check passes exactly what the lenient one does not warn of. -/
theorem strict_eq_ok_iff (schema : Schema) (query : Query) :
    strict schema query = .ok () ↔ warnings schema query = [] := by
  unfold strict warnings
  cases findings schema query with
  | nil => exact ⟨fun _ => rfl, fun _ => rfl⟩
  | cons finding others =>
      constructor
      · intro impossible; cases impossible
      · intro impossible; cases impossible

end Adherence

end QueryWarden
