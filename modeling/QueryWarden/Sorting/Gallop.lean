/-
Galloping: how many items at the front of a list pass a test, when those that pass are
known to come first. The places that are looked at lie farther and farther apart until
one fails, and what is left between is halved. Where the list was turned round, halving
looks at the place that it would have looked at in the list as it was.
-/

namespace QueryWarden.Sorting

variable {α ε : Type}

/-- Looks at places that lie farther and farther apart, for as long as the items there
pass. Gives the last place that passed and the first that did not. -/
def probe (passes : α → Except ε Bool) (items : List α) (passed reach : Nat) :
    Except ε (Nat × Nat) :=
  match _found : items[reach]? with
  | none => .ok (passed, items.length)
  | some item =>
      match passes item with
      | .error fault => .error fault
      | .ok true => probe passes items reach (2 * reach + 1)
      | .ok false => .ok (passed, reach)
termination_by items.length - reach
decreasing_by
  have inside := (List.getElem?_eq_some_iff.mp _found).1
  omega

/-- The place between two others at which halving looks. -/
def halfway (turned : Bool) (low high : Nat) : Nat :=
  if turned then high - 1 - (high - low) / 2 else low + (high - low) / 2

theorem halfway_bounds (turned : Bool) {low high : Nat} (apart : low < high) :
    low ≤ halfway turned low high ∧ halfway turned low high < high := by
  unfold halfway
  cases turned with
  | true =>
      rw [if_pos rfl]
      omega
  | false =>
      rw [if_neg Bool.false_ne_true]
      omega

/-- The first place between two others whose item fails. -/
def halve (passes : α → Except ε Bool) (items : List α) (turned : Bool) (low high : Nat) :
    Except ε Nat :=
  if _apart : low < high then
    match items[halfway turned low high]? with
    | none => .ok low
    | some item =>
        match passes item with
        | .error fault => .error fault
        | .ok true => halve passes items turned (halfway turned low high + 1) high
        | .ok false => halve passes items turned low (halfway turned low high)
  else .ok low
termination_by high - low
decreasing_by
  · have bounds := halfway_bounds turned _apart
    omega
  · have bounds := halfway_bounds turned _apart
    omega

def leading (passes : α → Except ε Bool) (turned : Bool) (items : List α) : Except ε Nat :=
  match items with
  | [] => .ok 0
  | first :: _ =>
      match passes first with
      | .error fault => .error fault
      | .ok false => .ok 0
      | .ok true =>
          match probe passes items 0 1 with
          | .error fault => .error fault
          | .ok (passed, reach) => halve passes items turned (passed + 1) reach

end QueryWarden.Sorting
