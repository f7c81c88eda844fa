/-
Filters in the form of data. A node is a mapping with one entry, whose name is the
operator: comparisons have a key and a value, membership tests a key and values,
patterns a key and a pattern, label tests a list of labels, conjunctions and
disjunctions a list of nodes and a negation one node. Whatever is missing or of the
wrong type is reported as a malformed filter of that operator.
-/

import QueryWarden.Filter.Build

namespace QueryWarden

inductive Operator where
  | compare (comparison : Comparison)
  | compareFolded (comparison : FoldedComparison)
  | oneOf (negated : Bool)
  | matching
  | anyLabel
  | joined (joint : Filter.Joint)
  | negation
deriving DecidableEq

def operators : List (String × Operator) :=
  [("eq", .compare .equal), ("ne", .compare .notEqual), ("gt", .compare .greater),
    ("gte", .compare .greaterOrEqual), ("lt", .compare .less),
    ("lte", .compare .lessOrEqual), ("contains", .compare .contains),
    ("contains_ignore_case", .compareFolded .contains),
    ("eq_ignore_case", .compareFolded .equal), ("starts_with", .compare .startsWith),
    ("ends_with", .compare .endsWith), ("in", .oneOf false), ("not_in", .oneOf true),
    ("like", .matching), ("has_any_label", .anyLabel), ("and", .joined .all),
    ("or", .joined .any), ("not", .negation)]

def Operator.ofName? (name : String) : Option Operator :=
  operators.lookup name

namespace Filter

/-- Faults of access inside a node are reported as a malformed filter of its operator. -/
def malformed {α : Type} (operator : String) : Except Fault α → Except Fault α
  | .error (.access fault) => .error (.filter (.malformed operator fault))
  | result => result

/-- The body as a list; a text is not one, though it could be walked through. -/
def listBody (operator : String) : Value → Except Fault (List Value)
  | .list items | .tuple items => .ok items
  | body => .error (.filter (.listExpected operator body.typeName))

/-- Reads a node whose operator does not lead to further nodes. -/
def readLeaf (name : String) (operator : Operator) (body : Value) : Except Fault Filter := do
  match operator with
  | .compare comparison =>
      let key ← accessing (body.subscript "key")
      let value ← accessing (body.subscript "value")
      buildCompare comparison key value
  | .compareFolded comparison =>
      let key ← accessing (body.subscript "key")
      let value ← accessing (body.subscript "value")
      buildFolded comparison key value
  | .oneOf negated =>
      let key ← accessing (body.subscript "key")
      let values ← accessing (body.subscript "values")
      let values ← listBody name values
      buildOneOf negated key (.tuple values)
  | .matching =>
      let key ← accessing (body.subscript "key")
      let pattern ← accessing (body.subscript "pattern")
      buildMatching key pattern
  | .anyLabel =>
      let labels ← listBody name body
      buildAnyLabel (.tuple labels)
  | _ => .error (.filter (.unknownOperator name))

def joinRead (joint : Joint) : List Filter → Except Fault Filter
  | [] => .error (.filter (.noParts joint.className))
  | first :: others => .ok (joint.join first others)

mutual

def ofValue : Value → Except Fault Filter
  | .map [(name, body)] =>
      match Operator.ofName? name with
      | none => .error (.filter (.unknownOperator name))
      | some (.joined joint) =>
          match body with
          | .list items =>
              match ofValues items with
              | .ok parts => joinRead joint parts
              | .error fault => .error fault
          | .tuple items =>
              match ofValues items with
              | .ok parts => joinRead joint parts
              | .error fault => .error fault
          | body => .error (.filter (.listExpected name body.typeName))
      | some .negation =>
          match ofValue body with
          | .ok part => .ok (.negation part)
          | .error fault => .error fault
      | some operator => malformed name (readLeaf name operator body)
  | node => refuse node.written? (fun written => .filter (.badNode written))
termination_by structural value => value

def ofValues : List Value → Except Fault (List Filter)
  | [] => .ok []
  | item :: items =>
      match ofValue item with
      | .ok filter =>
          match ofValues items with
          | .ok filters => .ok (filter :: filters)
          | .error fault => .error fault
      | .error fault => .error fault
termination_by structural items => items

end

end Filter

end QueryWarden
