/-
Parameter bindings: names with the values that the execution layer binds to them,
in the order in which the names came. Merging keeps every binding or fails.
-/

import QueryWarden.Fault

namespace QueryWarden

abbrev Bindings := List (String × Value)

namespace Bindings

/-- A name that is bound keeps its place and takes the new value. -/
def put (name : String) (value : Value) : Bindings → Bindings
  | [] => [(name, value)]
  | (other, old) :: rest =>
      if other = name then (name, value) :: rest else (other, old) :: put name value rest

theorem lookup_put (name other : String) (value : Value) (bindings : Bindings) :
    (put name value bindings).lookup other =
      if other = name then some value else bindings.lookup other := by
  induction bindings with
  | nil =>
      by_cases same : other = name
      · rw [put, List.lookup_cons, if_pos same, beq_iff_eq.mpr same]
      · rw [put, List.lookup_cons, if_neg same, beq_eq_false_iff_ne.mpr same]
  | cons entry rest ih =>
      obtain ⟨bound, old⟩ := entry
      by_cases here : bound = name
      · rw [put, if_pos here, List.lookup_cons, List.lookup_cons, here]
        by_cases same : other = name
        · rw [if_pos same, beq_iff_eq.mpr same]
        · rw [if_neg same, beq_eq_false_iff_ne.mpr same]
      · rw [put, if_neg here, List.lookup_cons, List.lookup_cons, ih]
        by_cases same : other = bound
        · have away : ¬ other = name := by rw [same]; exact here
          simp only [beq_iff_eq.mpr same, if_neg away]
        · rw [beq_eq_false_iff_ne.mpr same]

/-- The values of the second side win, at the places of the first. -/
def override (left right : Bindings) : Bindings :=
  right.foldl (fun bindings entry => put entry.1 entry.2 bindings) left

/-- The first name of the second side that the first side binds to an unequal value. -/
def conflict? (left : Bindings) : Bindings → Option String
  | [] => none
  | (name, value) :: rest =>
      match left.lookup name with
      | some old => if old.same value then conflict? left rest else some name
      | none => conflict? left rest

/-- Both sides together, provided that they agree on the names they share. -/
def merge (left right : Bindings) : Except FilterFault Bindings :=
  match conflict? left right with
  | some name => .error (.boundTwice name)
  | none => .ok (override left right)

def names (bindings : Bindings) : List String :=
  bindings.map Prod.fst

end Bindings

end QueryWarden
