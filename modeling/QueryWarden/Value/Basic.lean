/-
Dynamic values and filters. A value is what a filter compares with, what a parameter
binds, what a schema file holds and what a graph answers. A filter is a boolean
expression over the properties and labels of one entity; the tree is pure data, and
since filters can be handed about like any other value, the two types are defined
together. This file has the types, their views and the truth of values. Equality,
order, text and access stand in modules of their own.
-/

import QueryWarden.Filter.Kind
import QueryWarden.Identifier
import QueryWarden.Number.Double

namespace QueryWarden

open Number

/-- Calendar values, which only schema files can hold. -/
inductive Moment where
  | date
  | time
  | dateTime
deriving DecidableEq

mutual

/-- A mapping keeps its entries in the order in which their names first came. A clause is
the text of a condition with the parameters it refers to. -/
inductive Value where
  | null
  | bool (value : Bool)
  | int (value : Int)
  | float (value : Double)
  | text (value : String)
  | list (items : List Value)
  | tuple (items : List Value)
  | set (items : List Value)
  | map (entries : List (String × Value))
  | moment (kind : Moment) (written : String)
  | filter (filter : Filter)
  | clause (text : Value) (parameters : List (Value × Value))

/-- A composite has at least one part, and a membership test over labels at least one
label. Two bare filters are the same only when they carry the same mark. -/
inductive Filter where
  | compare (comparison : Comparison) (key : Identifier) (value : Value)
  | compareFolded (comparison : FoldedComparison) (key : Identifier) (value : Value)
  | oneOf (negated : Bool) (key : Identifier) (values : List Value)
  | matching (key : Identifier) (pattern : Value)
  | anyLabel (first : Value) (others : List Value)
  | all (first : Filter) (others : List Filter)
  | any (first : Filter) (others : List Filter)
  | negation (part : Filter)
  | bare (kind : BareKind) (mark : Nat)

end

instance : Inhabited Value := ⟨.null⟩

def Moment.typeName : Moment → String
  | .date => "datetime.date"
  | .time => "datetime.time"
  | .dateTime => "datetime.datetime"

def Filter.className : Filter → String
  | .compare comparison _ _ => comparison.className
  | .compareFolded comparison _ _ => comparison.className
  | .oneOf negated _ _ => if negated then "NotIn" else "In"
  | .matching _ _ => "MatchesPattern"
  | .anyLabel _ _ => "HasAnyLabel"
  | .all _ _ => "And"
  | .any _ _ => "Or"
  | .negation _ => "Not"
  | .bare kind _ => kind.className

def Value.typeName : Value → String
  | .null => "NoneType"
  | .bool _ => "bool"
  | .int _ => "int"
  | .float _ => "float"
  | .text _ => "str"
  | .list _ => "list"
  | .tuple _ => "tuple"
  | .set _ => "set"
  | .map _ => "dict"
  | .moment kind _ => kind.typeName
  | .filter tree => tree.className
  | .clause _ _ => "CompiledFilter"

/-- Nothing, zero and whatever is empty are false; all else is true. -/
def Value.truthy : Value → Bool
  | .null => false
  | .bool value => value
  | .int value => value != 0
  | .float value => !value.isZero
  | .text value => value != ""
  | .list items | .tuple items | .set items => !items.isEmpty
  | .map entries => !entries.isEmpty
  | .moment _ _ | .filter _ | .clause _ _ => true

/-- What a number measures. A truth value counts as zero or one. -/
def Value.quantity : Value → Option Quantity
  | .bool value => some (.rational (if value then 1 else 0))
  | .int value => some (.rational value)
  | .float value => value.quantity
  | _ => none

def Value.isNumber : Value → Bool
  | .bool _ | .int _ | .float _ => true
  | _ => false

def Value.isPlainNumber : Value → Bool
  | .int _ | .float _ => true
  | _ => false

def Value.filter? : Value → Option Filter
  | .filter tree => some tree
  | _ => none

def Value.ofTexts (texts : List String) : Value :=
  .list (texts.map .text)

end QueryWarden
