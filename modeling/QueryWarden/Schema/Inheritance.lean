/-
Inheritance among declared labels. The labels of a type are its own and, through any
number of steps, those it extends. A walk that comes back to a label it has passed is
a cycle and is reported as it was walked. Labels that have been resolved are kept, so
that a shared ancestor is visited once.
-/

namespace QueryWarden.Inheritance

abbrev Parents := List (String × List String)

abbrev Resolved := List (String × List String)

def parentsOf (parents : Parents) (label : String) : List String :=
  (parents.lookup label).getD []

mutual

/-- Resolves one label. The labels that are not on the walk are free; meeting one that
is not free closes a cycle, and the walk up to it is the error. -/
def resolve (parents : Parents) (free walk : List String) (resolved : Resolved)
    (label : String) : Except (List String) (List String × Resolved) :=
  if _present : label ∈ free then
    match resolved.lookup label with
    | some labels => .ok (labels, resolved)
    | none =>
        match resolveAll parents (free.erase label) (walk ++ [label]) resolved
            (parentsOf parents label) with
        | .ok (inherited, resolved) =>
            let labels := (label :: inherited).eraseDups
            .ok (labels, (label, labels) :: resolved)
        | .error cycle => .error cycle
  else .error (walk ++ [label])
termination_by (free.length, 0)
decreasing_by
  apply Prod.Lex.left
  rw [List.length_erase_of_mem _present]
  have := List.length_pos_of_mem _present
  omega

/-- Resolves labels from left to right and joins what they carry. -/
def resolveAll (parents : Parents) (free walk : List String) (resolved : Resolved) :
    List String → Except (List String) (List String × Resolved)
  | [] => .ok ([], resolved)
  | label :: others =>
      match resolve parents free walk resolved label with
      | .ok (labels, resolved) =>
          match resolveAll parents free walk resolved others with
          | .ok (more, resolved) => .ok (labels ++ more, resolved)
          | .error cycle => .error cycle
      | .error cycle => .error cycle
termination_by labels => (free.length, labels.length + 1)

end

def labelsOf (parents : Parents) (resolved : Resolved) (label : String) :
    Except (List String) (List String × Resolved) :=
  resolve parents (parents.map Prod.fst) [] resolved label

end QueryWarden.Inheritance
