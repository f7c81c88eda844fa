/-
Calls of tools as data. A tool that speaks to the graph replies with what came of it and
with the requests it sent. Its arguments are given by position; a call with too few or too
many of them reaches no tool.
-/

import QueryWarden.Tool.Executor

namespace QueryWarden

inductive ToolCall where
  | count (query : Value)
  | rows (query : Value)
  | values (query : Value)
  | find (label term : Value)
  | list (label limit : Value)

def Executor.perform (executor : Executor) (graph : Graph) : ToolCall → Reply
  | .count query => executor.count graph query
  | .rows query => executor.rows graph query
  | .values query => executor.values graph query
  | .find label term => executor.find graph label term
  | .list label limit => executor.list graph label limit

inductive Tool where
  | count
  | rows
  | values
  | find
  | list
  | describe
  | specs
deriving DecidableEq

namespace Tool

def all : List Tool :=
  [.count, .rows, .values, .find, .list, .describe, .specs]

def name : Tool → String
  | .count => "cypher_count"
  | .rows => "query_for_rows"
  | .values => "query_for_values"
  | .find => "find_entity"
  | .list => "list_all"
  | .describe => "describe_schema"
  | .specs => "tool_specs"

def ofName? (name : String) : Option Tool :=
  all.find? (fun tool => tool.name == name)

theorem ofName?_name (tool : Tool) : ofName? tool.name = some tool := by
  cases tool <;> decide

def signature (tool : Tool) : Signature :=
  let method := Signature.method ("CypherToolExecutor." ++ tool.name)
  match tool with
  | .count | .rows | .values => method ["cypher"]
  | .find => method ["label", "search_term"]
  | .list => (method ["label"]).withOptional 1
  | .describe | .specs => method []

def call? (tool : Tool) (arguments : List Value) : Option ToolCall :=
  let first := arguments.getD 0 .null
  match tool with
  | .count => some (.count first)
  | .rows => some (.rows first)
  | .values => some (.values first)
  | .find => some (.find first (arguments.getD 1 .null))
  | .list => some (.list first (arguments.getD 1 Executor.defaultListLimit))
  | .describe | .specs => none

end Tool

end QueryWarden
