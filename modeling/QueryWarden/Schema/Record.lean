/-
Node types and relationship types as records of typed fields. Every field that is
missing or of the wrong type is a problem, and all problems of a record are reported
together, in the order in which the fields are declared. Nothing is converted: a text
is a text, and a sequence is a list, a tuple or a set.
-/

import QueryWarden.Bindings
import QueryWarden.Schema.Basic

namespace QueryWarden

/-- A value, or all problems met on the way to it. -/
abbrev Checked (α : Type) := Except (List Problem) α

namespace Checked

def fail {α : Type} (kind : ProblemKind) : Checked α :=
  .error [{ path := [], kind := kind }]

def under {α : Type} (step : Step) (checked : Checked α) : Checked α :=
  checked.mapError (fun problems => problems.map (Problem.under step))

/-- Two checks of which neither hides the problems of the other. -/
def both {α β : Type} (left : Checked α) (right : Checked β) : Checked (α × β) :=
  match left, right with
  | .ok first, .ok second => .ok (first, second)
  | .ok _, .error problems => .error problems
  | .error problems, .ok _ => .error problems
  | .error problems, .error more => .error (problems ++ more)

/-- Checks every item, the places counted from the given one. -/
def items {α β : Type} (check : α → Checked β) : (place : Nat) → List α → Checked (List β)
  | _, [] => .ok []
  | place, item :: rest =>
      (both (under (.place place) (check item)) (items check (place + 1) rest)).map
        (fun pair => pair.1 :: pair.2)

def text : Value → Checked String
  | .text value => .ok value
  | _ => fail .notText

def tuple : Value → Checked (List String)
  | .list items | .tuple items | .set items => Checked.items text 0 items
  | _ => fail .notTuple

def textSet : Value → Checked (List String)
  | .list items | .tuple items | .set items => (Checked.items text 0 items).map sortedSet
  | _ => fail .notSet

def required {α : Type} (name : String) (check : Value → Checked α) (value : Option Value) :
    Checked α :=
  under (.field name) (match value with
    | some value => check value
    | none => fail .missing)

def optional {α : Type} (name : String) (check : Value → Checked α) (default : α)
    (value : Option Value) : Checked α :=
  under (.field name) (match value with
    | some value => check value
    | none => .ok default)

end Checked

open Checked

def NodeType.ofFields (fields : Bindings) : Checked NodeType :=
  (both (both (required "label" text (fields.lookup "label"))
      (optional "labels" textSet [] (fields.lookup "labels")))
    (both (optional "description" text "" (fields.lookup "description"))
      (optional "properties" tuple [] (fields.lookup "properties")))).map
    (fun checked =>
      { label := checked.1.1
        labels := checked.1.2
        description := checked.2.1
        properties := checked.2.2 })

/-- The name that a field goes by, of two of which the first one wins. A problem of the
field is reported under the name it was given by, and under the first if it is missing. -/
def givenName (fields : Bindings) (name other : String) : String :=
  if (fields.lookup name).isNone && (fields.lookup other).isSome then other else name

def requiredEither {α : Type} (fields : Bindings) (name other : String)
    (check : Value → Checked α) : Checked α :=
  let given := givenName fields name other
  required given check (fields.lookup given)

def RelationshipType.ofFields (fields : Bindings) : Checked RelationshipType :=
  (both (both (required "name" text (fields.lookup "name"))
      (requiredEither fields "from" "from_type" text))
    (both (requiredEither fields "to" "to_type" text)
      (optional "description" text "" (fields.lookup "description")))).map
    (fun checked =>
      { name := checked.1.1
        source := checked.1.2
        target := checked.2.1
        description := checked.2.2 })

/-- Adds a node type's own label to the labels it names, which may be anything that can
be walked through. Fields whose label is no text are left as they are. -/
def withOwnLabel (fields : Bindings) : Except AccessFault Bindings :=
  match fields.lookup "label" with
  | some (.text label) => do
      let named ← ((fields.lookup "labels").getD (.tuple [])).items
      let members ← Value.members named
      return Bindings.put "labels" (.set (Value.distinct (members ++ [.text label]))) fields
  | _ => .ok fields

def NodeType.ofRecord : Value → Except AccessFault (Checked NodeType)
  | .map fields => (withOwnLabel fields).map NodeType.ofFields
  | _ => .ok (fail (.notRecord "NodeType"))

def RelationshipType.ofRecord : Value → Checked RelationshipType
  | .map fields => RelationshipType.ofFields fields
  | _ => fail (.notRecord "RelationshipType")

def sequence? : Value → Option (List Value)
  | .list items | .tuple items | .set items => some items
  | _ => none

/-- The node types of a schema record; a fault of access ends the reading. -/
def nodeTypesOf (value : Option Value) : Except AccessFault (Checked (List NodeType)) :=
  match value with
  | none => .ok (.ok [])
  | some value =>
      match sequence? value with
      | none => .ok (fail .notTuple)
      | some records => do
          let checked ← records.mapM NodeType.ofRecord
          return Checked.items id 0 checked

def relationshipsOf (value : Option Value) : Checked (List RelationshipType) :=
  match value with
  | none => .ok []
  | some value =>
      match sequence? value with
      | none => fail .notTuple
      | some records => Checked.items RelationshipType.ofRecord 0 records

/-- A schema whose types are given as records, taken as they are. -/
def Schema.ofRecord (value : Value) : Except Fault Schema :=
  match value with
  | .map fields => do
      let nodeTypes ← accessing (nodeTypesOf (fields.lookup "node_types"))
      let checked := both (under (.field "node_types") nodeTypes)
        (under (.field "relationships") (relationshipsOf (fields.lookup "relationships")))
      match checked with
      | .ok (nodeTypes, relationships) =>
          .ok { nodeTypes := nodeTypes, relationships := relationships }
      | .error problems => .error (.records problems)
  | _ => .error (.records [{ path := [], kind := .notRecord "SchemaDescriptor" }])

end QueryWarden
