/-
Graph schemas: the declared node types and relationship types. A node type carries
its own label and every label it inherits; the set of its labels is kept in the order
of code points. The description is the text that an agent is given to read.
-/

import QueryWarden.Value.Text
import QueryWarden.Value.Sort

namespace QueryWarden

structure NodeType where
  label : String
  labels : List String
  description : String
  properties : List String
deriving DecidableEq

structure RelationshipType where
  name : String
  source : String
  target : String
  description : String
deriving DecidableEq

structure Schema where
  nodeTypes : List NodeType
  relationships : List RelationshipType
deriving DecidableEq

namespace Schema

def empty : Schema :=
  { nodeTypes := [], relationships := [] }

def allLabels (schema : Schema) : List String :=
  sortedSet (schema.nodeTypes.flatMap NodeType.labels)

def relationshipNames (schema : Schema) : List String :=
  sortedSet (schema.relationships.map RelationshipType.name)

def nodeType? (schema : Schema) (label : String) : Option NodeType :=
  schema.nodeTypes.find? (fun nodeType => nodeType.label == label)

def hasLabel (schema : Schema) (label : String) : Bool :=
  schema.allLabels.contains label

end Schema

def NodeType.inherited (nodeType : NodeType) : List String :=
  sortTexts (nodeType.labels.filter (· != nodeType.label))

def NodeType.describe (nodeType : NodeType) : String :=
  "- " ++ nodeType.label ++
  (if nodeType.inherited.isEmpty then ""
    else " (also: " ++ separate ", " nodeType.inherited ++ ")") ++
  (if nodeType.description = "" then "" else ": " ++ nodeType.description) ++
  (if nodeType.properties.isEmpty then ""
    else " [properties: " ++ separate ", " nodeType.properties ++ "]")

def RelationshipType.describe (relationship : RelationshipType) : String :=
  "- (" ++ relationship.source ++ ")-[:" ++ relationship.name ++ "]->(" ++
  relationship.target ++ ")" ++
  (if relationship.description = "" then "" else ": " ++ relationship.description)

def Schema.describe (schema : Schema) : String :=
  separate "\n"
    (["Entity types:"] ++ schema.nodeTypes.map NodeType.describe ++
      ["Relationships:"] ++ schema.relationships.map RelationshipType.describe)

end QueryWarden
