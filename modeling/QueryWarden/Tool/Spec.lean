/-
Descriptions of the tools for an agent: the name of each tool, what it does and the
parameters it takes, as data in the form of a JSON schema.
-/

import QueryWarden.Value.Basic

namespace QueryWarden

inductive ParameterKind where
  | text
  | integer
deriving DecidableEq

structure ToolParameter where
  name : String
  kind : ParameterKind
  description : String
  required : Bool
deriving DecidableEq

structure ToolSpec where
  name : String
  description : String
  parameters : List ToolParameter
deriving DecidableEq

def ParameterKind.name : ParameterKind → String
  | .text => "string"
  | .integer => "integer"

def ToolParameter.entry (parameter : ToolParameter) : String × Value :=
  (parameter.name, .map [("type", .text parameter.kind.name),
    ("description", .text parameter.description)])

def ToolSpec.requiredNames (spec : ToolSpec) : List String :=
  (spec.parameters.filter ToolParameter.required).map ToolParameter.name

def ToolSpec.toValue (spec : ToolSpec) : Value :=
  .map [("name", .text spec.name), ("description", .text spec.description),
    ("parameters", .map [("type", .text "object"),
      ("properties", .map (spec.parameters.map ToolParameter.entry)),
      ("required", Value.ofTexts spec.requiredNames)])]

def queryParameter : ToolParameter :=
  { name := "cypher", kind := .text, description := "Read-only Cypher query", required := true }

def labelParameter : ToolParameter :=
  { name := "label", kind := .text, description := "Node label declared in the schema",
    required := true }

def termParameter : ToolParameter :=
  { name := "search_term", kind := .text, description := "Part of the name", required := true }

def limitParameter : ToolParameter :=
  { name := "limit", kind := .integer, description := "Maximum rows (default 50)",
    required := false }

def toolSpecs : List ToolSpec :=
  [{ name := "cypher_count"
     description := "Run a Cypher query returning a single count, e.g. RETURN count(n)"
     parameters := [queryParameter] },
   { name := "query_for_rows"
     description := "Run a read-only Cypher query and get rows of named columns"
     parameters := [queryParameter] },
   { name := "query_for_values"
     description := "Run a read-only Cypher query returning a column aliased AS value"
     parameters := [queryParameter] },
   { name := "find_entity"
     description := "Find entities of a label whose name contains a search term"
     parameters := [labelParameter, termParameter] },
   { name := "list_all"
     description := "List ids and names of all entities with a label"
     parameters := [labelParameter, limitParameter] }]

end QueryWarden
