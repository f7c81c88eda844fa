/-
Bits of integers of any size and sign. A negative integer is the complement of one
that is not: its bits are those of the other, turned over.
-/

namespace QueryWarden.Number

def complement : Int → Int
  | .ofNat value => .negSucc value
  | .negSucc value => .ofNat value

/-- The bits of the first that are not among those of the second. -/
def withoutBits (left right : Nat) : Nat :=
  left - (left &&& right)

def commonBits : Int → Int → Int
  | .ofNat left, .ofNat right => .ofNat (left &&& right)
  | .ofNat left, .negSucc right => .ofNat (withoutBits left right)
  | .negSucc left, .ofNat right => .ofNat (withoutBits right left)
  | .negSucc left, .negSucc right => .negSucc (left ||| right)

def joinedBits (left right : Int) : Int :=
  complement (commonBits (complement left) (complement right))

end QueryWarden.Number
