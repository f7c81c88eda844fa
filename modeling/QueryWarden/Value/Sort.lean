/-
Sorted values and sorted texts. Values are compared one pair at a time, since the
comparison may fail; texts always have an order.
-/

import QueryWarden.Sorting.Basic
import QueryWarden.Value.Order

namespace QueryWarden

/-- Sorted values; two that have no order are a fault as soon as they are compared. -/
def Value.sort (items : List Value) : Except AccessFault (List Value) :=
  Sorting.sort Value.less items

def sortTexts (texts : List String) : List String :=
  texts.mergeSort (fun left right => left ≤ right)

def sortedSet (texts : List String) : List String :=
  sortTexts texts.eraseDups

theorem mem_sortedSet (text : String) (texts : List String) :
    text ∈ sortedSet texts ↔ text ∈ texts := by
  rw [sortedSet, sortTexts, List.mem_mergeSort, List.mem_eraseDups]

theorem sortedSet_nil : sortedSet [] = [] := by
  simp [sortedSet, sortTexts]

theorem sortedSet_singleton (text : String) : sortedSet [text] = [text] := by
  simp [sortedSet, sortTexts, List.eraseDups_cons]

end QueryWarden
