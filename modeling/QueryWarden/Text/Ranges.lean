/-
Sets of characters given as closed ranges of code points. Only the lookup is
here; each set stands in the module named for the property it records.
-/

namespace QueryWarden.Text

def inRanges (ranges : List (Nat × Nat)) (letter : Char) : Bool :=
  ranges.any (fun range => range.1 ≤ letter.toNat && letter.toNat ≤ range.2)

theorem inRanges_iff (ranges : List (Nat × Nat)) (letter : Char) :
    inRanges ranges letter = true ↔
      ∃ range ∈ ranges, range.1 ≤ letter.toNat ∧ letter.toNat ≤ range.2 := by
  simp [inRanges]

end QueryWarden.Text
