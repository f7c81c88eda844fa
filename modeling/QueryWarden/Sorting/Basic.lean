/-
Sorting by merging runs. The items are cut into runs from left to right, short ones
being lengthened, and the runs wait on a pile. Between two neighbours lies a boundary,
whose depth tells how often the whole has to be cut in half to come between the middles
of the two; a boundary is merged away as soon as one that is less deep follows. The
order may fail or be partial: every comparison has its place in the sequence, and so
which of them fails first, and what becomes of items that have no order among
themselves, is settled. Items that are equal keep their sequence, and whatever the
order, sorting neither loses an item nor adds one.
-/

import QueryWarden.Sorting.Merge

namespace QueryWarden.Sorting

variable {α ε : Type}

/-- A run on the pile: the place where it starts, its items, and the depth of the boundary
behind it. The last run has no boundary behind it yet. -/
structure Placed (α : Type) where
  start : Nat
  items : List α
  depth : Nat

/-- The least length of runs for a number of items: its first six bits, and one more if
any other bit is set. -/
def leastRun (rounding count : Nat) : Nat :=
  if count < 64 then count + rounding else leastRun (max rounding (count % 2)) (count / 2)
termination_by count
decreasing_by omega

/-- How often a whole has to be cut in half until two places in it are in different
halves. The places are given twice as large as they are. -/
def boundaryDepth (whole first second : Nat) : Nat :=
  if _together : first < second ∧ 0 < whole ∧ first / whole = second / whole then
    1 + boundaryDepth whole (2 * first) (2 * second)
  else 1
termination_by whole - (second - first)
decreasing_by
  obtain ⟨apart, positive, same⟩ := _together
  have := Nat.div_add_mod first whole
  have := Nat.div_add_mod second whole
  have := Nat.mod_lt first positive
  have := Nat.mod_lt second positive
  rw [same] at *
  omega

/-- The depth of the boundary between a run and the run of some length behind it. -/
def depthBehind (whole : Nat) (run : Placed α) (length : Nat) : Nat :=
  let middle := 2 * run.start + run.items.length
  boundaryDepth whole middle (middle + run.items.length + length)

/-- Merges the last run with those before it, for as long as the boundaries between them
are deeper than the given one. -/
def settle (less : α → α → Except ε Bool) (depth patience : Nat) (last : Placed α) :
    List (Placed α) → Except ε (List (Placed α) × Nat)
  | [] => .ok ([{ last with depth := depth }], patience)
  | run :: runs =>
      if depth < run.depth then
        match merge less patience run.items last.items with
        | .error fault => .error fault
        | .ok (items, patience) =>
            settle less depth patience { run with items := items } runs
      else .ok ({ last with depth := depth } :: run :: runs, patience)

def makeRoom (less : α → α → Except ε Bool) (whole length patience : Nat) :
    List (Placed α) → Except ε (List (Placed α) × Nat)
  | [] => .ok ([], patience)
  | last :: runs => settle less (depthBehind whole last length) patience last runs

/-- The first run, lengthened to the least length, and the items behind it. -/
def nextRun (less : α → α → Except ε Bool) (least : Nat) (items : List α) :
    Except ε (List α × List α) :=
  match firstRun less items with
  | .error fault => .error fault
  | .ok (run, left) =>
      (insertAll less run (left.take (least - run.length))).map (fun lengthened =>
        (lengthened, left.drop (least - run.length)))

/-- Merges all runs on the pile, the last one first. Of three runs the first two are
merged if the first is shorter than the last. -/
def collapse (less : α → α → Except ε Bool) (patience : Nat) :
    List (List α) → Except ε (List α)
  | [] => .ok []
  | [only] => .ok only
  | [last, run] => (merge less patience run last).map Prod.fst
  | last :: run :: first :: runs =>
      if first.length < last.length then
        match merge less patience first run with
        | .error fault => .error fault
        | .ok (items, patience) => collapse less patience (last :: items :: runs)
      else
        match merge less patience run last with
        | .error fault => .error fault
        | .ok (items, patience) => collapse less patience (items :: first :: runs)
termination_by runs => runs.length

/-- Cuts the items into runs and piles these up, the last one on top. There are no more
runs than there are items, which are the fuel. -/
def pileUp (less : α → α → Except ε Bool) (whole : Nat) :
    (fuel patience : Nat) → List (Placed α) → List α → Except ε (List α)
  | _, patience, pile, [] => collapse less patience (pile.map Placed.items)
  | 0, patience, pile, items => collapse less patience (items :: pile.map Placed.items)
  | fuel + 1, patience, pile, items =>
      match nextRun less (leastRun 0 whole) items with
      | .error fault => .error fault
      | .ok (run, left) =>
          match makeRoom less whole run.length patience pile with
          | .error fault => .error fault
          | .ok (pile, patience) =>
              pileUp less whole fuel patience
                ({ start := whole - items.length, items := run, depth := 0 } :: pile) left

def sort (less : α → α → Except ε Bool) (items : List α) : Except ε (List α) :=
  pileUp less items.length items.length longStretch [] items

/-! ### Nothing is lost or added -/

def pileItems (pile : List (Placed α)) : List α :=
  (pile.map Placed.items).flatten

theorem settle_perm {less : α → α → Except ε Bool} {depth patience : Nat}
    {last : Placed α} {runs : List (Placed α)} {found : List (Placed α) × Nat}
    (settled : settle less depth patience last runs = .ok found) :
    (pileItems found.1).Perm (last.items ++ pileItems runs) := by
  induction runs generalizing last patience with
  | nil =>
      cases settled
      exact .refl _
  | cons run runs ih =>
      unfold settle at settled
      split at settled
      · split at settled
        · cases settled
        · rename_i items next merged
          refine (ih settled).trans ?_
          refine ((merge_perm merged).append_right _).trans ?_
          refine (List.perm_append_comm.append_right _).trans ?_
          rw [List.append_assoc]
          exact .refl _
      · cases settled
        exact .refl _

theorem makeRoom_perm {less : α → α → Except ε Bool} {whole length patience : Nat}
    {pile : List (Placed α)} {found : List (Placed α) × Nat}
    (made : makeRoom less whole length patience pile = .ok found) :
    (pileItems found.1).Perm (pileItems pile) := by
  cases pile with
  | nil =>
      cases made
      exact .refl _
  | cons last runs => exact settle_perm made

theorem nextRun_perm {less : α → α → Except ε Bool} {least : Nat} {items : List α}
    {found : List α × List α} (next : nextRun less least items = .ok found) :
    (found.1 ++ found.2).Perm items := by
  unfold nextRun at next
  split at next
  · cases next
  · rename_i run left first
    obtain ⟨longer, inserted, rfl⟩ := of_map_eq_ok next
    refine ((insertAll_perm inserted).append_right _).trans ?_
    rw [List.append_assoc, List.take_append_drop]
    exact firstRun_perm first

theorem collapse_perm (less : α → α → Except ε Bool) (patience : Nat)
    (runs : List (List α)) :
    ∀ items, collapse less patience runs = .ok items → items.Perm runs.flatten := by
  fun_induction collapse less patience runs with
  | case1 patience => intro items collapsed; cases collapsed; exact .refl _
  | case2 patience only =>
      intro items collapsed
      cases collapsed
      rw [List.flatten_cons, List.flatten_nil, List.append_nil]
  | case3 patience last run =>
      intro items collapsed
      obtain ⟨found, merged, rfl⟩ := of_map_eq_ok collapsed
      refine (merge_perm merged).trans ?_
      rw [List.flatten_cons, List.flatten_cons, List.flatten_nil, List.append_nil]
      exact List.perm_append_comm
  | case4 patience last run first runs shorter fault failed =>
      intro items collapsed
      cases collapsed
  | case5 patience last run first runs shorter items next merged ih =>
      intro result collapsed
      refine (ih result collapsed).trans ?_
      rw [List.flatten_cons, List.flatten_cons, List.flatten_cons, List.flatten_cons,
        List.flatten_cons, ← List.append_assoc run first]
      refine List.Perm.append_left _ (List.Perm.append_right _ ?_)
      exact (merge_perm merged).trans List.perm_append_comm
  | case6 patience last run first runs longer fault failed =>
      intro items collapsed
      cases collapsed
  | case7 patience last run first runs longer items next merged ih =>
      intro result collapsed
      refine (ih result collapsed).trans ?_
      rw [List.flatten_cons, List.flatten_cons, List.flatten_cons, List.flatten_cons,
        List.flatten_cons, ← List.append_assoc last run]
      refine List.Perm.append_right _ ?_
      exact (merge_perm merged).trans List.perm_append_comm

theorem pileUp_perm {less : α → α → Except ε Bool} {whole fuel patience : Nat}
    {pile : List (Placed α)} {items result : List α}
    (piled : pileUp less whole fuel patience pile items = .ok result) :
    result.Perm (pileItems pile ++ items) := by
  induction fuel generalizing patience pile items with
  | zero =>
      cases items with
      | nil =>
          rw [List.append_nil]
          exact collapse_perm _ _ _ _ piled
      | cons first items =>
          refine (collapse_perm _ _ _ _ piled).trans ?_
          rw [List.flatten_cons]
          exact List.perm_append_comm
  | succ fuel ih =>
      cases items with
      | nil =>
          rw [List.append_nil]
          exact collapse_perm _ _ _ _ piled
      | cons first items =>
          unfold pileUp at piled
          split at piled
          · cases piled
          · rename_i run left next
            split at piled
            · cases piled
            · rename_i room patience made
              refine (ih piled).trans ?_
              change (run ++ pileItems room ++ left).Perm _
              refine (List.perm_append_comm.append_right _).trans ?_
              rw [List.append_assoc]
              exact (makeRoom_perm made).append (nextRun_perm next)

/-- Whatever the order is, the sorted items are the items. -/
theorem sort_perm {less : α → α → Except ε Bool} {items sorted : List α}
    (done : sort less items = .ok sorted) : sorted.Perm items :=
  pileUp_perm done

end QueryWarden.Sorting
