/-
Schemas in the form in which files hold them: node types and relationships by name.
Parents have to be declared and inheritance must not run in a circle; the ends of a
relationship have to be declared. The faults come in the order of the reading: shape
and parents of all types, then type by type, then relationship by relationship.
-/

import QueryWarden.Schema.Inheritance
import QueryWarden.Schema.Record

namespace QueryWarden

namespace Schema

structure Declaration where
  label : String
  parents : List Value
  spec : Value

def declarations : List (String × Value) → Except AccessFault (List Declaration)
  | [] => .ok []
  | (label, spec) :: rest => do
      let spec := spec.orEmpty
      let extended ← spec.field "extends" (.tuple [])
      let parents ← extended.items
      let others ← declarations rest
      return { label := label, parents := parents, spec := spec } :: others

/-- A parent's label, which has to be one of the declared ones. -/
def declaredParent (declared : List String) (label : String) (parent : Value) :
    Except Fault String := do
  accessing parent.hashable
  match parent with
  | .text name =>
      if declared.contains name then return name
      else .error (.schema (.unknownParent label name))
  | parent => refuse parent.shown? (fun shown => .schema (.unknownParent label shown))

def parentsOf (declared : List String) (declarations : List Declaration) :
    Except Fault Inheritance.Parents :=
  declarations.mapM (fun declaration => do
    let parents ← declaration.parents.mapM (declaredParent declared declaration.label)
    return (declaration.label, parents))

def checkedRecord {α : Type} (checked : Checked α) : Except Fault α :=
  checked.mapError (fun problems => .schema (.invalid problems))

/-- A node type from its declaration and the labels it has been found to carry. -/
def buildNodeType (declaration : Declaration) (labels : List String) : Except Fault NodeType := do
  let description ← accessing (declaration.spec.field "description" (.text ""))
  let listed ← accessing (declaration.spec.field "properties" (.tuple []))
  let properties ← accessing listed.items
  checkedRecord (NodeType.ofFields
    [("label", .text declaration.label), ("labels", .ofTexts labels),
      ("description", description), ("properties", .tuple properties)])

def buildNodeTypes (parents : Inheritance.Parents) :
    Inheritance.Resolved → List Declaration → Except Fault (List NodeType)
  | _, [] => .ok []
  | resolved, declaration :: rest =>
      match Inheritance.labelsOf parents resolved declaration.label with
      | .error cycle => .error (.schema (.cycle cycle))
      | .ok (labels, resolved) => do
          let nodeType ← buildNodeType declaration labels
          let others ← buildNodeTypes parents resolved rest
          return nodeType :: others

def checkEndpoint (declared : List String) (relationship : String) (endpoint : String) :
    Except Fault Unit :=
  if declared.contains endpoint then .ok ()
  else .error (.schema (.unknownEndpoint relationship endpoint))

/-- A relationship goes by the name under which it stands, unless its fields say another. -/
def buildRelationship (declared : List String) (name : String) (spec : Value) :
    Except Fault RelationshipType := do
  match spec with
  | .map fields =>
      let relationship ← checkedRecord
        (RelationshipType.ofFields (Bindings.override [("name", .text name)] fields))
      checkEndpoint declared name relationship.source
      checkEndpoint declared name relationship.target
      return relationship
  | spec => .error (.access (.notMapping spec.typeName))

def ofValue (data : Value) : Except Fault Schema := do
  let types := (← accessing (data.field "node_types" (.map []))).orEmpty
  let named := (← accessing (data.field "relationships" (.map []))).orEmpty
  let typeEntries ← accessing types.entries
  let declarations ← accessing (declarations typeEntries)
  let declared := typeEntries.map Prod.fst
  let parents ← parentsOf declared declarations
  let nodeTypes ← buildNodeTypes parents [] declarations
  let relationshipEntries ← accessing named.entries
  let relationships ← relationshipEntries.mapM
    (fun entry => buildRelationship declared entry.1 entry.2)
  return { nodeTypes := nodeTypes, relationships := relationships }

end Schema

end QueryWarden
