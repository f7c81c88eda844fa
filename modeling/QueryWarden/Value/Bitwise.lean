/-
The operators that filters share with plain values: the complement of an integer, and
the meet and join of integers, truth values, sets and mappings. A truth value counts as
zero or one, except beside another truth value.
-/

import QueryWarden.Number.Bits
import QueryWarden.Value.Access

namespace QueryWarden

open Number

namespace Value

def whole? : Value → Option Int
  | .bool value => some (if value then 1 else 0)
  | .int value => some value
  | _ => none

def badOperands {α : Type} (operator : String) (left right : Value) : Except AccessFault α :=
  .error (.badOperand operator [left.typeName, right.typeName])

def holds (members : List Value) (value : Value) : Bool :=
  members.any (fun member => member.agrees value)

/-- The members that two sets have in common, in the form in which the smaller set has
them, the second where they are of one size. -/
def commonMembers (left right : List Value) : List Value :=
  if left.length < right.length then left.filter (holds right)
  else right.filter (holds left)

/-- The members of the first set, and those of the second that it does not hold. -/
def joinedMembers (left right : List Value) : List Value :=
  left ++ right.filter (fun value => !holds left value)

def complement (value : Value) : Except AccessFault Value :=
  match value.whole? with
  | some integer => .ok (.int (Number.complement integer))
  | none => .error (.badOperand "~" [value.typeName])

def meet (left right : Value) : Except AccessFault Value :=
  match left, right with
  | .bool first, .bool second => .ok (.bool (first && second))
  | .set first, .set second => .ok (.set (commonMembers first second))
  | left, right =>
      match left.whole?, right.whole? with
      | some first, some second => .ok (.int (commonBits first second))
      | _, _ => badOperands "&" left right

/-- Entries of the second mapping win, at the places of the first. -/
def joinEntries (left right : List (String × Value)) : List (String × Value) :=
  left.map (fun entry => (entry.1, (right.lookup entry.1).getD entry.2)) ++
    right.filter (fun entry => (left.lookup entry.1).isNone)

def join (left right : Value) : Except AccessFault Value :=
  match left, right with
  | .bool first, .bool second => .ok (.bool (first || second))
  | .set first, .set second => .ok (.set (joinedMembers first second))
  | .map first, .map second => .ok (.map (joinEntries first second))
  | left, right =>
      match left.whole?, right.whole? with
      | some first, some second => .ok (.int (joinedBits first second))
      | _, _ => badOperands "|" left right

end Value

end QueryWarden
