/-
Building filters from parts that are not known to fit. Every key is checked before
anything else is looked at; then the values or parts are walked through. What is handed
to a composite in the place of a filter is refused with its type.
-/

import QueryWarden.Filter.Compile
import QueryWarden.Filter.Given
import QueryWarden.Value.Bitwise

namespace QueryWarden

namespace Filter

def keyRole : String := "property key"

def propertyKey (key : Value) : Except Fault Identifier :=
  Identifier.ofValue keyRole key

def buildCompare (comparison : Comparison) (key value : Value) : Except Fault Filter :=
  (propertyKey key).map (fun key => .compare comparison key value)

def buildFolded (comparison : FoldedComparison) (key value : Value) : Except Fault Filter :=
  (propertyKey key).map (fun key => .compareFolded comparison key value)

def buildMatching (key pattern : Value) : Except Fault Filter :=
  (propertyKey key).map (fun key => .matching key pattern)

def buildOneOf (negated : Bool) (key values : Value) : Except Fault Filter := do
  let key ← propertyKey key
  return .oneOf negated key (← accessing values.items)

/-- A membership test over labels; labels that agree count once. -/
def buildAnyLabel (labels : Value) : Except Fault Filter := do
  match ← accessing (Value.members (← accessing labels.items)) with
  | [] => .error (.filter .noLabels)
  | first :: others => .ok (.anyLabel first others)

inductive Joint where
  | all
  | any
deriving DecidableEq

def Joint.className : Joint → String
  | .all => "And"
  | .any => "Or"

def Joint.join : Joint → Filter → List Filter → Filter
  | .all => .all
  | .any => .any

/-- The parts as filters, up to the first that is none. -/
def partsOf (joint : Joint) : List Value → Except Fault (List Filter)
  | [] => .ok []
  | part :: parts =>
      match part.filter? with
      | some filter => (partsOf joint parts).map (filter :: ·)
      | none => .error (.filter (.partNotFilter joint.className part.typeName))

def buildJoined (joint : Joint) (parts : Value) : Except Fault Filter := do
  match ← partsOf joint (← accessing parts.items) with
  | [] => .error (.filter (.noParts joint.className))
  | first :: others => .ok (joint.join first others)

def buildNegation (part : Value) : Except Fault Filter :=
  match part.filter? with
  | some filter => .ok (.negation filter)
  | none => .error (.filter (.negatedNotFilter part.typeName))

/-- Whether an argument that stands alone is taken for the list of all arguments. -/
def isCollection : Value → Bool
  | .list _ | .tuple _ | .set _ => true
  | _ => false

def collect : List Value → Value
  | [only] => if isCollection only then only else .tuple [only]
  | arguments => .tuple arguments

/-- The meet of two values: a conjunction, where the left one is a filter. -/
def meet (left right : Value) : Except Fault Value :=
  match left with
  | .filter _ => (buildJoined .all (.tuple [left, right])).map .filter
  | left => accessing (left.meet right)

/-- The join of two values: a disjunction, where the left one is a filter. -/
def join (left right : Value) : Except Fault Value :=
  match left with
  | .filter _ => (buildJoined .any (.tuple [left, right])).map .filter
  | left => accessing (left.join right)

/-- The complement of a value: a negation, where it is a filter. -/
def complement : Value → Except Fault Value
  | .filter filter => .ok (.filter (.negation filter))
  | value => accessing value.complement

/-- Joins a clause to a fragment. What is no clause cannot be asked whether it is empty. -/
def appendTo (clause existing : Value) : Except Fault Value :=
  match clause with
  | .clause text parameters =>
      GivenClause.appendTo { text := text, parameters := parameters } existing
  | value => .error (.access (.noAttribute value.typeName "is_empty"))

end Filter

/-- Compiles whatever stands in the place of a filter. Nothing compiles to the empty
clause, and what is no filter is refused as one of an unknown class. -/
def Compiler.compileValue (compiler : Compiler) : Value → Except Fault WhereClause
  | .null => compiler.compile none
  | .filter filter => compiler.compile (some filter)
  | value => .error (.unsupported value.typeName)

end QueryWarden
