/-
Merging two runs. Items are taken one at a time from the side whose turn it is, until
one side has won often enough in a row; then whole stretches are taken by galloping, for
as long as these are long. How often a side has to win is the patience of the merge,
which wanes while galloping pays and grows when it does not. The shorter run decides
from which end the runs are merged. Whatever the order, the merged items are those of
both runs.
-/

import QueryWarden.Sorting.Gallop
import QueryWarden.Sorting.Run

namespace QueryWarden.Sorting

variable {α ε : Type}

/-- The side whose last item closes the merge, as no comparison can move it. -/
inductive Side where
  | left
  | right
deriving DecidableEq

/-- How two lists are merged: which of two items is taken first, and how many items of
one side are taken before the first of the other. -/
structure Rule (α ε : Type) where
  closing : Side
  takesRight : (left right : α) → Except ε Bool
  countLeft : (right : α) → List α → Except ε Nat
  countRight : (left : α) → List α → Except ε Nat

/-- What is left of a merge when nothing more has to be compared. -/
def rest? (closing : Side) (left right : List α) : Option (List α) :=
  match closing, left, right with
  | _, left, [] => some left
  | _, [], right => some right
  | .left, [last], right => some (right ++ [last])
  | .right, left, [last] => some (left ++ [last])
  | _, _, _ => none

/-- Items are taken one at a time, with the number of times that each side has won in a
row, or in stretches, first of the left side and then of the right. -/
inductive Pace where
  | stepping (leftWins rightWins : Nat)
  | gallopingLeft
  | gallopingRight (leftStretch : Nat)

/-- The length from which on stretches are long enough to go on galloping. -/
def longStretch : Nat := 7

def Pace.afterLeft (patience leftWins : Nat) : Pace :=
  if patience ≤ leftWins then .gallopingLeft else .stepping leftWins 0

def Pace.afterRight (patience rightWins : Nat) : Pace :=
  if patience ≤ rightWins then .gallopingLeft else .stepping 0 rightWins

/-- What a merge comes to in one move: it is closed with the items that are left, or it
takes a stretch of one side and an item of the other, and goes on. -/
inductive Move (α : Type) where
  | closed (items : List α)
  | onward (stretch : List α) (item : α) (pace : Pace) (patience : Nat) (left right : List α)

def moveByItem (rule : Rule α ε) (leftWins rightWins patience : Nat) (first : α)
    (lefts : List α) (second : α) (rights : List α) : Except ε (Move α) :=
  match rule.takesRight first second with
  | .error fault => .error fault
  | .ok true =>
      .ok (.onward [] second (.afterRight patience (rightWins + 1)) patience (first :: lefts)
        rights)
  | .ok false =>
      .ok (.onward [] first (.afterLeft patience (leftWins + 1)) patience lefts
        (second :: rights))

/-- Takes what stands on the left side before the first item of the right one, and that
item. -/
def moveByLeft (rule : Rule α ε) (patience : Nat) (left : List α) (second : α)
    (rights : List α) : Except ε (Move α) :=
  match rule.countLeft second left with
  | .error fault => .error fault
  | .ok count =>
      match rest? rule.closing (left.drop count) (second :: rights) with
      | some whole => .ok (.closed (left.take count ++ whole))
      | none =>
          .ok (.onward (left.take count) second (.gallopingRight count) patience
            (left.drop count) rights)

/-- The pace after a stretch of each side, and the patience with it. -/
def paceAfter (leftStretch rightStretch patience : Nat) : Pace × Nat :=
  if leftStretch < longStretch ∧ rightStretch < longStretch then (.stepping 0 0, patience + 1)
  else (.gallopingLeft, max 1 (patience - 1))

/-- Takes what stands on the right side before the first item of the left one, and that
item. The patience changes only if the merge is not closed thereby. -/
def moveByRight (rule : Rule α ε) (leftStretch patience : Nat) (first : α) (lefts : List α)
    (right : List α) : Except ε (Move α) :=
  match rule.countRight first right with
  | .error fault => .error fault
  | .ok count =>
      match rest? rule.closing (first :: lefts) (right.drop count) with
      | some whole => .ok (.closed (right.take count ++ whole))
      | none =>
          match rest? rule.closing lefts (right.drop count) with
          | some whole => .ok (.closed (right.take count ++ first :: whole))
          | none =>
              let next := paceAfter leftStretch count patience
              .ok (.onward (right.take count) first next.1 next.2 lefts (right.drop count))

def compare (rule : Rule α ε) (pace : Pace) (patience : Nat) (first : α) (lefts : List α)
    (second : α) (rights : List α) : Except ε (Move α) :=
  match pace with
  | .stepping leftWins rightWins =>
      moveByItem rule leftWins rightWins patience first lefts second rights
  | .gallopingLeft => moveByLeft rule patience (first :: lefts) second rights
  | .gallopingRight leftStretch =>
      moveByRight rule leftStretch patience first lefts (second :: rights)

def move (rule : Rule α ε) (pace : Pace) (patience : Nat) (left right : List α) :
    Except ε (Move α) :=
  match rest? rule.closing left right with
  | some whole => .ok (.closed whole)
  | none =>
      match left, right with
      | first :: lefts, second :: rights =>
          compare rule pace patience first lefts second rights
      | left, right => .ok (.closed (left ++ right))

/-! ### A move keeps all items -/

theorem rest?_perm {closing : Side} {left right whole : List α}
    (ended : rest? closing left right = some whole) : whole.Perm (left ++ right) := by
  unfold rest? at ended
  split at ended
  · cases ended
    rw [List.append_nil]
  · cases ended
    exact .refl _
  · cases ended
    exact List.perm_append_comm
  · cases ended
    exact .refl _
  · cases ended

/-- A stretch of the left side and an item of the right one, put before the rest. -/
theorem stretch_left_perm (count : Nat) (left : List α) (item : α) (right : List α) :
    (left.take count ++ item :: (left.drop count ++ right)).Perm (left ++ item :: right) := by
  refine List.Perm.trans (List.perm_middle.trans ?_) List.perm_middle.symm
  rw [← List.append_assoc, List.take_append_drop]

/-- A stretch of the right side, put before the left one. -/
theorem stretch_right_perm (count : Nat) (left right : List α) :
    (right.take count ++ (left ++ right.drop count)).Perm (left ++ right) := by
  rw [← List.append_assoc]
  refine (List.perm_append_comm.append_right _).trans ?_
  rw [List.append_assoc, List.take_append_drop]

def Move.items : Move α → List α
  | .closed items => items
  | .onward stretch item _ _ left right => stretch ++ item :: (left ++ right)

theorem moveByItem_perm {rule : Rule α ε} {leftWins rightWins patience : Nat}
    {first second : α} {lefts rights : List α} {moved : Move α}
    (made : moveByItem rule leftWins rightWins patience first lefts second rights = .ok moved) :
    moved.items.Perm (first :: lefts ++ second :: rights) := by
  unfold moveByItem at made
  split at made
  · cases made
  · cases made
    exact List.perm_middle.symm
  · cases made
    exact .refl _

theorem moveByLeft_perm {rule : Rule α ε} {patience : Nat} {second : α}
    {left rights : List α} {moved : Move α}
    (made : moveByLeft rule patience left second rights = .ok moved) :
    moved.items.Perm (left ++ second :: rights) := by
  unfold moveByLeft at made
  split at made
  · cases made
  · split at made
    · rename_i ended
      cases made
      refine ((rest?_perm ended).append_left _).trans ?_
      rw [← List.append_assoc, List.take_append_drop]
    · cases made
      exact stretch_left_perm _ _ second rights

theorem moveByRight_perm {rule : Rule α ε} {leftStretch patience : Nat} {first : α}
    {lefts right : List α} {moved : Move α}
    (made : moveByRight rule leftStretch patience first lefts right = .ok moved) :
    moved.items.Perm (first :: lefts ++ right) := by
  unfold moveByRight at made
  split at made
  · cases made
  · split at made
    · rename_i ended
      cases made
      exact ((rest?_perm ended).append_left _).trans (stretch_right_perm _ _ _)
    · split at made
      · rename_i ended
        cases made
        refine (((rest?_perm ended).cons first).append_left _).trans ?_
        exact stretch_right_perm _ (first :: lefts) _
      · cases made
        exact stretch_right_perm _ (first :: lefts) _

theorem compare_perm {rule : Rule α ε} {pace : Pace} {patience : Nat} {first second : α}
    {lefts rights : List α} {moved : Move α}
    (made : compare rule pace patience first lefts second rights = .ok moved) :
    moved.items.Perm (first :: lefts ++ second :: rights) := by
  cases pace with
  | stepping leftWins rightWins => exact moveByItem_perm made
  | gallopingLeft => exact moveByLeft_perm made
  | gallopingRight leftStretch => exact moveByRight_perm made

theorem move_perm {rule : Rule α ε} {pace : Pace} {patience : Nat} {left right : List α}
    {moved : Move α} (made : move rule pace patience left right = .ok moved) :
    moved.items.Perm (left ++ right) := by
  unfold move at made
  split at made
  · rename_i ended
    cases made
    exact rest?_perm ended
  · split at made
    · exact compare_perm made
    · cases made
      exact .refl _

theorem move_shorter {rule : Rule α ε} {pace next : Pace} {patience rest : Nat} {item : α}
    {left right stretch lefts rights : List α}
    (made : move rule pace patience left right =
      .ok (.onward stretch item next rest lefts rights)) :
    lefts.length + rights.length < left.length + right.length := by
  have whole := (move_perm made).length_eq
  rw [Move.items, List.length_append, List.length_cons, List.length_append,
    List.length_append] at whole
  omega

/-! ### Whole merges -/

def before (items : List α) (merged : List α × Nat) : List α × Nat :=
  (items ++ merged.1, merged.2)

/-- Merges two lists, move by move; the patience is handed on. -/
def join (rule : Rule α ε) (pace : Pace) (patience : Nat) (left right : List α) :
    Except ε (List α × Nat) :=
  match _made : move rule pace patience left right with
  | .error fault => .error fault
  | .ok (.closed items) => .ok (items, patience)
  | .ok (.onward stretch item pace patience left right) =>
      (join rule pace patience left right).map (before (stretch ++ [item]))
termination_by left.length + right.length
decreasing_by exact move_shorter _made

def fails (tested : Except ε Bool) : Except ε Bool :=
  tested.map not

/-- Merges from the front; of equal items those of the left run come first. -/
def frontRule (less : α → α → Except ε Bool) : Rule α ε :=
  { closing := .left
    takesRight := fun left right => less right left
    countLeft := fun right => leading (fun left => fails (less right left)) false
    countRight := fun left => leading (fun right => less right left) false }

/-- Merges runs that have been turned round. -/
def backRule (less : α → α → Except ε Bool) : Rule α ε :=
  { closing := .right
    takesRight := fun left right => fails (less right left)
    countLeft := fun right => leading (fun left => less right left) true
    countRight := fun left => leading (fun right => fails (less right left)) true }

/-- Merges what cannot stay in its place: the first item comes from the right run and the
last one from the left run. -/
def mergeMiddle (less : α → α → Except ε Bool) (patience : Nat) (left right : List α) :
    Except ε (List α × Nat) :=
  if left.length ≤ right.length then
    (join (frontRule less) (.stepping 0 0) patience left (right.drop 1)).map
      (before (right.take 1))
  else
    (join (backRule less) (.stepping 0 0) patience (left.reverse.drop 1) right.reverse).map
      (fun merged => ((left.reverse.take 1 ++ merged.1).reverse, merged.2))

/-- Merges two runs. Items of the left run that stand before all of the right one, and
items of the right run that stand behind all of the left one, stay where they are. -/
def merge (less : α → α → Except ε Bool) (patience : Nat) (left right : List α) :
    Except ε (List α × Nat) :=
  match right with
  | [] => .ok (left, patience)
  | first :: _ =>
      match leading (fun item => fails (less first item)) false left with
      | .error fault => .error fault
      | .ok front =>
          match (left.drop front).getLast? with
          | none => .ok (left ++ right, patience)
          | some last =>
              match leading (fun item => fails (less item last)) true right.reverse with
              | .error fault => .error fault
              | .ok back =>
                  if right.length ≤ back then .ok (left ++ right, patience)
                  else
                    (mergeMiddle less patience (left.drop front)
                      (right.take (right.length - back))).map (fun merged =>
                        (left.take front ++ merged.1 ++ right.drop (right.length - back),
                          merged.2))

/-! ### Nothing is lost or added -/

theorem before_perm {items other : List α} {result : Except ε (List α × Nat)}
    {merged : List α × Nat} (placed : result.map (before items) = .ok merged)
    (kept : ∀ found, result = .ok found → found.1.Perm other) :
    merged.1.Perm (items ++ other) := by
  obtain ⟨found, joined, rfl⟩ := of_map_eq_ok placed
  exact (kept found joined).append_left items

theorem join_perm (rule : Rule α ε) (pace : Pace) (patience : Nat) (left right : List α) :
    ∀ merged, join rule pace patience left right = .ok merged →
      merged.1.Perm (left ++ right) := by
  fun_induction join rule pace patience left right with
  | case1 pace patience left right fault made => intro merged joined; cases joined
  | case2 pace patience left right items made =>
      intro merged joined
      cases joined
      exact move_perm made
  | case3 pace patience left right stretch item next rest lefts rights made ih =>
      intro merged joined
      refine (before_perm joined ih).trans ?_
      rw [List.append_assoc]
      exact move_perm made

theorem mergeMiddle_perm {less : α → α → Except ε Bool} {patience : Nat}
    {left right : List α} {merged : List α × Nat}
    (done : mergeMiddle less patience left right = .ok merged) :
    merged.1.Perm (left ++ right) := by
  unfold mergeMiddle at done
  split at done
  · refine (before_perm done (join_perm _ _ _ _ _)).trans ?_
    refine (List.perm_append_comm.append_left _).trans ?_
    rw [← List.append_assoc, List.take_append_drop]
    exact List.perm_append_comm
  · obtain ⟨found, joined, rfl⟩ := of_map_eq_ok done
    refine (List.reverse_perm _).trans ?_
    refine ((join_perm _ _ _ _ _ found joined).append_left _).trans ?_
    rw [← List.append_assoc, List.take_append_drop]
    exact (List.reverse_perm left).append (List.reverse_perm right)

theorem merge_perm {less : α → α → Except ε Bool} {patience : Nat} {left right : List α}
    {merged : List α × Nat} (done : merge less patience left right = .ok merged) :
    merged.1.Perm (left ++ right) := by
  unfold merge at done
  split at done
  · cases done
    rw [List.append_nil]
  · split at done
    · cases done
    · split at done
      · cases done
        exact .refl _
      · split at done
        · cases done
        · split at done
          · cases done
            exact .refl _
          · obtain ⟨found, joined, rfl⟩ := of_map_eq_ok done
            have middle := mergeMiddle_perm joined
            refine ((middle.append_left _).append_right _).trans ?_
            rw [← List.append_assoc, List.take_append_drop, List.append_assoc,
              List.take_append_drop]

end QueryWarden.Sorting
