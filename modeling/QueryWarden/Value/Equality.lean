/-
Equality of values. Numbers are equal when they measure the same, whatever their
types; `nan` equals nothing. A list never equals a tuple. Mappings and sets are
compared without regard to order, filters and clauses field by field. Within a
collection, and among fields, it is enough that two items agree: equal items do, and so
does a `nan` that is met again.
-/

import QueryWarden.Value.Basic

namespace QueryWarden

open Number

def sameQuantity : Option Quantity → Option Quantity → Bool
  | some left, some right => left = right
  | _, _ => false

def sameMark : Value → Value → Bool
  | .float (.nan left), .float (.nan right) => left == right
  | _, _ => false

mutual

def Value.same : Value → Value → Bool
  | .null, .null => true
  | .text left, .text right => left == right
  | .list left, .list right => Value.sameItems left right
  | .tuple left, .tuple right => Value.sameItems left right
  | .set left, .set right => left.length == right.length && Value.eachAmong left right
  | .map left, .map right => left.length == right.length && Value.eachBound left right
  | .moment leftKind left, .moment rightKind right => leftKind == rightKind && left == right
  | .filter left, .filter right => Filter.same left right
  | .clause left leftParameters, .clause right rightParameters =>
      (Value.same left right || sameMark left right) &&
        leftParameters.length == rightParameters.length &&
        Value.eachPaired leftParameters rightParameters
  | .bool left, right => sameQuantity (Value.bool left).quantity right.quantity
  | .int left, right => sameQuantity (Value.int left).quantity right.quantity
  | .float left, right => sameQuantity (Value.float left).quantity right.quantity
  | _, _ => false
termination_by structural left => left

def Value.sameItems : List Value → List Value → Bool
  | [], [] => true
  | left :: lefts, right :: rights =>
      (Value.same left right || sameMark left right) && Value.sameItems lefts rights
  | _, _ => false
termination_by structural left => left

/-- Every item on the left has one on the right with which it agrees. -/
def Value.eachAmong : List Value → List Value → Bool
  | [], _ => true
  | left :: lefts, rights =>
      rights.any (fun right => Value.same left right || sameMark left right) &&
        Value.eachAmong lefts rights
termination_by structural left => left

/-- Every name on the left is bound on the right, and to a value that agrees. -/
def Value.eachBound : List (String × Value) → List (String × Value) → Bool
  | [], _ => true
  | (name, left) :: lefts, rights =>
      (match rights.lookup name with
        | some right => Value.same left right || sameMark left right
        | none => false) && Value.eachBound lefts rights
termination_by structural left => left

def Value.eachPaired : List (Value × Value) → List (Value × Value) → Bool
  | [], _ => true
  | (name, left) :: lefts, rights =>
      (match rights.find? (fun pair => Value.same name pair.1 || sameMark name pair.1) with
        | some (_, right) => Value.same left right || sameMark left right
        | none => false) && Value.eachPaired lefts rights
termination_by structural left => left

/-- Filters are the same when their classes are and all their fields agree. -/
def Filter.same : Filter → Filter → Bool
  | .compare comparison key value, .compare otherComparison otherKey otherValue =>
      comparison == otherComparison && key == otherKey &&
        (Value.same value otherValue || sameMark value otherValue)
  | .compareFolded comparison key value, .compareFolded otherComparison otherKey otherValue =>
      comparison == otherComparison && key == otherKey &&
        (Value.same value otherValue || sameMark value otherValue)
  | .oneOf negated key values, .oneOf otherNegated otherKey otherValues =>
      negated == otherNegated && key == otherKey && Value.sameItems values otherValues
  | .matching key pattern, .matching otherKey otherPattern =>
      key == otherKey && (Value.same pattern otherPattern || sameMark pattern otherPattern)
  | .anyLabel first others, .anyLabel otherFirst otherOthers =>
      others.length == otherOthers.length &&
        (otherFirst :: otherOthers).any (fun other => Value.same first other || sameMark first other) &&
        Value.eachAmong others (otherFirst :: otherOthers)
  | .all first others, .all otherFirst otherOthers =>
      Filter.same first otherFirst && Filter.sameParts others otherOthers
  | .any first others, .any otherFirst otherOthers =>
      Filter.same first otherFirst && Filter.sameParts others otherOthers
  | .negation part, .negation otherPart => Filter.same part otherPart
  | .bare kind mark, .bare otherKind otherMark => kind == otherKind && mark == otherMark
  | _, _ => false
termination_by structural left => left

def Filter.sameParts : List Filter → List Filter → Bool
  | [], [] => true
  | left :: lefts, right :: rights => Filter.same left right && Filter.sameParts lefts rights
  | _, _ => false
termination_by structural lefts => lefts

end

/-- Whether one value is found where the other is looked for: it is equal to it, or it is
the same `nan`. -/
def Value.agrees (left right : Value) : Bool :=
  left.same right || sameMark left right

theorem Value.agrees_text (left right : String) :
    (Value.text left).agrees (.text right) = (left == right) :=
  Bool.or_false _

theorem Value.agrees_null_iff (other : Value) :
    Value.null.agrees other = true ↔ other = .null := by
  cases other <;> simp [agrees, same, sameMark]

theorem Filter.same_bare_iff (kind : BareKind) (mark : Nat) (other : Filter) :
    (Filter.bare kind mark).same other = true ↔ other = .bare kind mark := by
  cases other <;> simp [same, eq_comm (a := kind), eq_comm (a := mark)]

def Value.distinct (items : List Value) : List Value :=
  (items.foldl (fun kept item =>
    if kept.any (fun other => other.agrees item) then kept else item :: kept) []).reverse

end QueryWarden
