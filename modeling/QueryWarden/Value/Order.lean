/-
The order of values. Numbers are ordered by what they measure, texts by code
points, lists and tuples item by item, and a set stands before every set that holds
more than it. Values of unlike types have no order, and comparing them is a fault.
The order is not total: `nan` stands before nothing, and neither does a set before one
that lacks a member of it.
-/

import QueryWarden.Value.Access

namespace QueryWarden

open Number

namespace Value

def quantityLess : Option Quantity → Option Quantity → Bool
  | some left, some right => left.less right
  | _, _ => false

def notOrdered {α : Type} (left right : Value) : Except AccessFault α :=
  .error (.notOrdered left.typeName right.typeName)

/-- Numbers by what they measure; anything else has no order with a number. -/
def lessNumber (left right : Value) : Except AccessFault Bool :=
  if right.isNumber then .ok (quantityLess left.quantity right.quantity)
  else notOrdered left right

mutual

/-- Whether the left value stands before the right one, when the two have an order. -/
def less : Value → Value → Except AccessFault Bool
  | .text left, .text right => .ok (left < right)
  | .list left, .list right => lessItems left right
  | .tuple left, .tuple right => lessItems left right
  | .set left, .set right => .ok (left.length < right.length && eachAmong left right)
  | .bool left, right => lessNumber (.bool left) right
  | .int left, right => lessNumber (.int left) right
  | .float left, right => lessNumber (.float left) right
  | left, right => notOrdered left right
termination_by structural left => left

/-- The first pair of items that do not agree decides. -/
def lessItems : List Value → List Value → Except AccessFault Bool
  | [], [] => .ok false
  | [], _ :: _ => .ok true
  | _ :: _, [] => .ok false
  | left :: lefts, right :: rights =>
      if agrees left right then lessItems lefts rights else less left right
termination_by structural lefts => lefts

end

end Value

end QueryWarden
