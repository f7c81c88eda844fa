/-
Pairs: mappings whose names can be any values that sets can hold. Each name stands
once, at the place where it first came, with the value that came last.
-/

import QueryWarden.Value.Access

namespace QueryWarden

abbrev Pairs := List (Value × Value)

namespace Pairs

/-- A name that is bound keeps its place and takes the new value. -/
def put (name value : Value) : Pairs → Pairs
  | [] => [(name, value)]
  | (other, old) :: rest =>
      if other.agrees name then (other, value) :: rest else (other, old) :: put name value rest

def get? (name : Value) (pairs : Pairs) : Option Value :=
  (pairs.find? (fun pair => pair.1.agrees name)).map Prod.snd

/-- The values of the second side win, at the places of the first. -/
def override (left right : Pairs) : Pairs :=
  right.foldl (fun pairs pair => put pair.1 pair.2 pairs) left

def ofTexts (entries : List (String × Value)) : Pairs :=
  entries.map (fun entry => (.text entry.1, entry.2))

def ofItem (place : Nat) (item : Value) : Except AccessFault (Value × Value) :=
  match item.items with
  | .error _ => .error (.notPair place)
  | .ok [name, value] => name.hashable.map (fun _ => (name, value))
  | .ok parts => .error (.pairLength place parts.length)

/-- Adds the pairs that items hold, the places counted from the given one. -/
def addItems : (place : Nat) → Pairs → List Value → Except AccessFault Pairs
  | _, pairs, [] => .ok pairs
  | place, pairs, item :: items => do
      let (name, value) ← ofItem place item
      addItems (place + 1) (put name value pairs) items

/-- A mapping as it is, or the pairs that the items of another value hold. -/
def ofValue : Value → Except AccessFault Pairs
  | .map entries => .ok (ofTexts entries)
  | value => do addItems 0 [] (← value.items)

end Pairs

end QueryWarden
