/-
Which values can be sorted. An order exists only within a family of values: texts, numbers and
the several collections. Scalars are sorted exactly when they are all of one family, or when
there is but one of them, which is compared with nothing.
-/

import QueryWarden.Proofs.Sorting.Faults
import QueryWarden.Proofs.Sorting.Kinds
import QueryWarden.Value.Sort

namespace QueryWarden

/-- Values of one family may have an order, values of two never have. -/
inductive Family where
  | text
  | number
  | list
  | tuple
  | set
deriving DecidableEq

namespace Value

def family? : Value → Option Family
  | .text _ => some .text
  | .bool _ | .int _ | .float _ => some .number
  | .list _ => some .list
  | .tuple _ => some .tuple
  | .set _ => some .set
  | .null | .map _ | .moment _ _ | .filter _ | .clause _ _ => none

def isScalar : Value → Bool
  | .null | .bool _ | .int _ | .float _ | .text _ => true
  | _ => false

theorem family?_eq_number_iff (value : Value) :
    value.family? = some .number ↔ value.isNumber = true := by
  cases value <;> simp [family?, isNumber]

theorem lessNumber_eq_ok_iff (left right : Value) :
    (∃ before, lessNumber left right = .ok before) ↔ right.family? = some .number := by
  rw [family?_eq_number_iff, lessNumber]
  cases right.isNumber with
  | true => simp
  | false => simp [notOrdered]

private theorem less_separates : Sorting.Separates less family? := by
  intro left right before compared
  cases left with
  | text _ =>
      cases right with
      | text _ => exact ⟨.text, rfl, rfl⟩
      | _ => cases compared
  | list _ =>
      cases right with
      | list _ => exact ⟨.list, rfl, rfl⟩
      | _ => cases compared
  | tuple _ =>
      cases right with
      | tuple _ => exact ⟨.tuple, rfl, rfl⟩
      | _ => cases compared
  | set _ =>
      cases right with
      | set _ => exact ⟨.set, rfl, rfl⟩
      | _ => cases compared
  | bool _ | int _ | float _ =>
      exact ⟨.number, rfl, (lessNumber_eq_ok_iff _ right).mp ⟨before, compared⟩⟩
  | _ => cases compared

/-- Scalars of one family can be compared. -/
theorem exists_less_of_family {left right : Value} (scalar : left.isScalar = true)
    {shared : Family} (leftFamily : left.family? = some shared)
    (rightFamily : right.family? = some shared) : ∃ before, left.less right = .ok before := by
  cases left with
  | text _ =>
      cases leftFamily
      cases right with
      | text _ => exact ⟨_, rfl⟩
      | _ => cases rightFamily
  | bool _ | int _ | float _ =>
      cases leftFamily
      exact (lessNumber_eq_ok_iff _ right).mpr rightFamily
  | null => cases leftFamily
  | _ => cases scalar

private theorem kindName_of_less_eq_error {left right : Value} (scalar : left.isScalar = true)
    {fault : AccessFault} (failed : left.less right = .error fault) :
    fault.kindName = "TypeError" := by
  cases left with
  | null =>
      cases failed
      rfl
  | text _ =>
      cases right with
      | text _ => cases failed
      | _ =>
          cases failed
          rfl
  | bool _ | int _ | float _ =>
      change lessNumber _ right = .error fault at failed
      rw [lessNumber] at failed
      split at failed
      · cases failed
      · cases failed
        rfl
  | _ => cases scalar

def SortsAlike (items : List Value) : Prop :=
  (Sorting.OneKind family? items ∧ ∃ sorted, sort items = .ok sorted) ∨
    (¬ Sorting.OneKind family? items ∧
      ∃ fault, sort items = .error fault ∧ fault.kindName = "TypeError")

private theorem exists_sort_of_oneKind {items : List Value}
    (scalars : ∀ item ∈ items, item.isScalar = true) (alike : Sorting.OneKind family? items) :
    ∃ sorted, sort items = .ok sorted := by
  rcases alike with short | ⟨shared, all⟩
  · match items with
    | [] =>
        apply Sorting.sort_exists
        intro left member
        cases member
    | [only] => exact ⟨[only], Sorting.sort_singleton less only⟩
    | _ :: _ :: _ =>
        simp only [List.length_cons] at short
        omega
  · apply Sorting.sort_exists
    intro left leftMember right rightMember
    exact exists_less_of_family (scalars left leftMember) (all left leftMember)
      (all right rightMember)

theorem sortsAlike_of_scalars {items : List Value}
    (scalars : ∀ item ∈ items, item.isScalar = true) : SortsAlike items := by
  cases done : sort items with
  | ok sorted => exact .inl ⟨Sorting.sort_oneKind less_separates done, sorted, done⟩
  | error fault =>
      obtain ⟨left, leftMember, right, _, failed⟩ := Sorting.sort_error done
      refine .inr ⟨?_, fault, done, kindName_of_less_eq_error (scalars left leftMember) failed⟩
      intro alike
      obtain ⟨sorted, found⟩ := exists_sort_of_oneKind scalars alike
      rw [found] at done
      cases done

end Value

end QueryWarden
