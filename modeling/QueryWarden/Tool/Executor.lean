/-
The tools of an agent. A query that an agent writes is validated before it is sent,
and the queries that the tools write themselves refer to a declared label only. A fault
becomes a message with advice, so that the agent can mend its request. Counts and values
are written while the answer is read, where a fault becomes a message too; rows and
names are written afterwards, and so are the messages themselves.
-/

import QueryWarden.Filter.Compile
import QueryWarden.Query.RowLimit
import QueryWarden.Text.Search
import QueryWarden.Tool.Attempt
import QueryWarden.Validator.Basic
import QueryWarden.Value.Integer

namespace QueryWarden

open Text

structure Executor where
  schema : Schema
  validator : Validator
  maximum : Value

namespace Executor

def defaultMaximum : Value := .int 100

def create (schema : Schema) (validator : Validator) (maximum : Value) :
    Except Fault Executor :=
  match checkResultLimit maximum with
  | .ok () => .ok { schema := schema, validator := validator, maximum := maximum }
  | .error fault => .error fault

/-! ### Texts -/

def mentions (part : String) (text : String) : Bool :=
  occurs part.toList text.toList

def mendAdvice : String := "Please fix the query and try again."

def advice (message : String) : String :=
  if mentions "Invalid input" message then
    "Cypher syntax error. Check your query syntax and try again."
  else if mentions "not in schema" message || mentions "not defined" message ||
      mentions "unknown" (lowerText message) then
    "Unknown label or relationship type. Check that you're using types from the schema."
  else mendAdvice

def countAdvice (message : String) : String :=
  if mentions "Expected exactly one" message then
    "Your query returns multiple rows or columns. " ++
      "Use query_for_rows for aggregations that return multiple results."
  else advice message

def failure (message guidance : String) : String :=
  "ERROR: " ++ message ++ "\n" ++ guidance

def noRows : String :=
  "No results found. This could mean:\n" ++
  "- No data matches your query criteria\n" ++
  "- The relationships you're querying don't exist in the database\n" ++
  "- Try a simpler query first to verify the data exists"

def cellText? (cell : Value × Value) : Option String := do
  let column ← cell.1.shown?
  let shown ← cell.2.shown?
  return column ++ ": " ++ shown

def rowLine? (row : Row) : Option String :=
  (row.mapM cellText?).map (separate ", ")

def rowsText? (rows : List Row) : Option String :=
  if rows.isEmpty then some noRows
  else (rows.mapM rowLine?).map (fun lines =>
    "Found " ++ toString rows.length ++ " rows:\n" ++ separate "\n" lines)

def valuesText (values : List String) : String :=
  if values.isEmpty then "No values found."
  else "Found " ++ toString values.length ++ " values:\n" ++
    separate "\n" (values.map ("- " ++ ·))

/-- The name and id of an entity; the text stands for whichever is missing. -/
def nameAndId? (missing : String) (row : Row) : Option String := do
  let name ← (row.getD "name" (.text missing)).shown?
  let id ← (row.getD "id" (.text missing)).shown?
  return name ++ " (id: " ++ id ++ ")"

def listing? (missing : String) (rows : List Row) : Option String :=
  (rows.mapM (nameAndId? missing)).map (fun entities =>
    separate "\n" (entities.map ("- " ++ ·)))

def foundText? (label : String) (term : Value) (rows : List Row) : Option String :=
  match rows with
  | [] =>
      term.shown?.map (fun term =>
        "No " ++ label ++ " found matching '" ++ term ++ "'.\n" ++
          "Try again with a different or shorter search term (e.g., just the surname).")
  | [row] =>
      (nameAndId? "unknown" row).map (fun entity =>
        "Found exact match: " ++ entity ++ ". Use this id or name in your query.")
  | rows =>
      (listing? "unknown" rows).map (fun entities =>
        "Found " ++ toString rows.length ++ " matching " ++ label ++
          "(s). Choose the most relevant one:\n" ++ entities ++
          "\n\nUse the chosen entity's id or exact name in your query.")

def listedText? (label : String) (rows : List Row) : Option String :=
  if rows.isEmpty then some ("No " ++ label ++ " entities found in the database.")
  else (listing? "?" rows).map (fun entities =>
    "Found " ++ toString rows.length ++ " " ++ label ++ " entities:\n" ++ entities)

/-! ### Steps -/

def validated (executor : Executor) (query : Value) : Except Fault Query :=
  match query.textFor "replace" with
  | .ok text =>
      let query := Query.ofRaw text
      match executor.validator.validate executor.schema (.ready query) with
      | .ok () => .ok query
      | .error fault => .error fault
  | .error fault => .error (.access fault)

def declaredLabel (schema : Schema) (label : Value) : Except Fault Identifier :=
  match Identifier.ofValue "label" label with
  | .error fault => .error fault
  | .ok label =>
      if schema.hasLabel label.name then .ok label
      else .error (.rejected (.unknownLabel label.name schema.allLabels))

/-- The query with the executor's limit, unless it has its own. -/
def limited (executor : Executor) (query : Query) : Except Fault String :=
  match executor.maximum.shown? with
  | some maximum => .ok (withLimit maximum query.text)
  | none => writing (RowLimit.ownLimit? query.text)

def rowsOf (result : QueryResult) : Attempt (List Row) :=
  .of (accessing result.rows)

def countOf (rows : List Row) : Except Fault Value :=
  match QueryResult.count? rows with
  | some count => .ok count
  | none => .error (.countShape rows.length)

def valuesOf (rows : List Row) : List Value :=
  (rows.map (fun row => row.getD "value" .null)).filter (fun value => !value matches .null)

/-! ### Queries of the tools -/

def nodeCompiler : Compiler :=
  { node := ⟨"n", by decide⟩, stem := ⟨"_filter_", by decide⟩ }

def nameKey : Identifier :=
  ⟨"name", by decide⟩

def nameFilter (term : Value) : Filter :=
  .compareFolded .contains nameKey term

def findText (label : Identifier) (clause : String) : String :=
  "MATCH (n:" ++ label.name ++ ") WHERE " ++ clause ++
    " RETURN n.id AS id, n.name AS name, labels(n) AS labels LIMIT 10"

def listText (label : Identifier) : String :=
  "MATCH (n:" ++ label.name ++ ") RETURN n.id AS id, n.name AS name ORDER BY n.name LIMIT $limit"

def smaller (left right : Value) : Value :=
  if right.less left matches .ok true then right else left

def larger (left right : Value) : Value :=
  if left.less right matches .ok true then right else left

/-- The limit asked for, not above the executor's maximum and not below one. -/
def boundedLimit (executor : Executor) (limit : Int) : Value :=
  larger (.int 1) (smaller (.int limit) executor.maximum)

/-- The bounded limit is logged before it is asked for, so it needs a text. -/
def announcedLimit (executor : Executor) (limit : Int) : Except Fault Value :=
  (writing (executor.boundedLimit limit).shown?).map (fun _ => executor.boundedLimit limit)

/-! ### Tools -/

def countAttempt (executor : Executor) (graph : Graph) (query : Value) : Attempt Value := do
  let query ← .of (executor.validated query)
  let result ← .send graph { query := query.text, parameters := none }
  let rows ← rowsOf result
  .of (countOf rows)

def countTextAttempt (executor : Executor) (graph : Graph) (query : Value) :
    Attempt String := do
  let count ← countAttempt executor graph query
  .of (writing count.shown?)

/-- Runs a query that gives a single count. -/
def count (executor : Executor) (graph : Graph) (query : Value) : Reply :=
  (countTextAttempt executor graph query).reply (fun count => some ("Count: " ++ count))
    (fun fault => fault.textOrKind?.map (fun message => failure message (countAdvice message)))

def rowsAttempt (executor : Executor) (graph : Graph) (query : Value) :
    Attempt (List Row) := do
  let query ← .of (executor.validated query)
  let limited ← .of (executor.limited query)
  let result ← .send graph { query := limited, parameters := none }
  rowsOf result

/-- Runs a query and writes every row as columns with their cells. -/
def rows (executor : Executor) (graph : Graph) (query : Value) : Reply :=
  (rowsAttempt executor graph query).reply rowsText?
    (fun fault => fault.textOrKind?.map (fun message => failure message (advice message)))

def valuesAttempt (executor : Executor) (graph : Graph) (query : Value) :
    Attempt (List String) := do
  let rows ← rowsAttempt executor graph query
  .of (writing ((valuesOf rows).mapM Value.shown?))

/-- Runs a query whose rows have a column of values. -/
def values (executor : Executor) (graph : Graph) (query : Value) : Reply :=
  (valuesAttempt executor graph query).reply (fun values => some (valuesText values))
    (fun fault => fault.text?.map (fun text =>
      failure ("Error executing values query: " ++ text) mendAdvice))

def findAttempt (executor : Executor) (graph : Graph) (label term : Value) :
    Attempt (Identifier × List Row) := do
  let label ← .of (declaredLabel executor.schema label)
  let clause ← .of (nodeCompiler.compile (some (nameFilter term)))
  let result ← .send graph
    { query := findText label clause.text, parameters := some clause.parameters }
  let rows ← rowsOf result
  return (label, rows)

def find (executor : Executor) (graph : Graph) (label term : Value) : Reply :=
  (findAttempt executor graph label term).reply
    (fun found => foundText? found.1.name term found.2)
    (fun fault => fault.text?.map (fun text =>
      failure ("Error finding entity: " ++ text)
        "Please check the label name and try again with a different search term."))

def listAttempt (executor : Executor) (graph : Graph) (label limit : Value) :
    Attempt (Identifier × List Row) := do
  let label ← .of (declaredLabel executor.schema label)
  let limit ← .of (limit.toInteger.mapError .integer)
  let limit ← .of (executor.announcedLimit limit)
  let result ← .send graph { query := listText label, parameters := some [("limit", limit)] }
  let rows ← rowsOf result
  return (label, rows)

def defaultListLimit : Value := .int 50

def list (executor : Executor) (graph : Graph) (label limit : Value) : Reply :=
  (listAttempt executor graph label limit).reply
    (fun listed => listedText? listed.1.name listed.2)
    (fun fault => do
      let label ← label.shown?
      let text ← fault.text?
      return "ERROR: Error listing " ++ label ++ ": " ++ text)

def describeSchema (executor : Executor) : String :=
  executor.schema.describe

end Executor

end QueryWarden
