/-
The shortest decimal text of a double. Among the decimals that round to the number
the one with the fewest digits is chosen, and of those the one nearest to it. The
text is positional from 10^-4 up to 10^16 and has an exponent outside.
-/

import QueryWarden.Number.Double

namespace QueryWarden.Number

/-- A positive decimal `digits * 10 ^ power`. -/
structure Decimal where
  digits : Nat
  power : Int
deriving DecidableEq

/-- A common unit for a number and the two ends of the interval that rounds to it:
everything is a multiple of `unitNumerator / unitDenominator`. -/
structure Interval where
  low : Nat
  centre : Nat
  high : Nat
  unitNumerator : Nat
  unitDenominator : Nat
  closed : Bool

/-- The ends lie halfway to the neighbouring doubles, and belong to the interval when
the significand is even. Below a power of two the neighbour is twice as near. -/
def Interval.around (significand : Nat) (exponent : Int) : Interval :=
  let narrow := significand = twoTo 52 ∧ leastExponent < exponent
  { low := if narrow then 4 * significand - 1 else 4 * significand - 2
    centre := 4 * significand
    high := 4 * significand + 2
    unitNumerator := if 2 ≤ exponent then twoTo (exponent - 2).toNat else 1
    unitDenominator := if 2 ≤ exponent then 1 else twoTo (2 - exponent).toNat
    closed := significand % 2 = 0 }

/-- Whether `digits * 10 ^ power` lies in the interval. -/
def Interval.holds (interval : Interval) (decimal : Decimal) : Bool :=
  let (left, right) :=
    if 0 ≤ decimal.power then
      (decimal.digits * tenTo decimal.power.toNat * interval.unitDenominator,
        interval.unitNumerator)
    else
      (decimal.digits * interval.unitDenominator,
        interval.unitNumerator * tenTo (-decimal.power).toNat)
  if interval.closed then interval.low * right ≤ left && left ≤ interval.high * right
  else interval.low * right < left && left < interval.high * right

/-- The centre divided by `10 ^ power`, as numerator and denominator. -/
def Interval.onGrid (interval : Interval) (power : Int) : Nat × Nat :=
  if 0 ≤ power then
    (interval.centre * interval.unitNumerator, interval.unitDenominator * tenTo power.toNat)
  else
    (interval.centre * interval.unitNumerator * tenTo (-power).toNat, interval.unitDenominator)

/-- Of the two neighbours of the centre on one decimal grid, the nearest that lies in
the interval. -/
def Interval.candidate (interval : Interval) (power : Int) : Option Decimal :=
  let (numerator, denominator) := interval.onGrid power
  let nearest := roundHalfEven numerator denominator
  let below := numerator / denominator
  let other := if nearest = below then below + 1 else below
  if interval.holds ⟨nearest, power⟩ && nearest != 0 then some ⟨nearest, power⟩
  else if interval.holds ⟨other, power⟩ && other != 0 then some ⟨other, power⟩
  else none

/-- The first grid, from coarse to fine, with a decimal in the interval. -/
def Interval.search (interval : Interval) : (steps : Nat) → (power : Int) → Option Decimal
  | 0, _ => none
  | steps + 1, power =>
      match interval.candidate power with
      | some decimal => some decimal
      | none => interval.search steps (power - 1)

def decimalDigits (value : Nat) : List Char :=
  (toString value).toList

/-- The number of decimal places to the left of the point, by the size of the centre. -/
def Interval.leadingPower (interval : Interval) : Int :=
  let numerator := interval.centre * interval.unitNumerator
  let denominator := interval.unitDenominator
  if denominator ≤ numerator then
    (((decimalDigits (numerator / denominator)).length : Nat) : Int) - 1
  else -(((decimalDigits (denominator / numerator)).length : Nat) : Int)

def dropFinalZeros (digits : List Char) : List Char :=
  (digits.reverse.dropWhile (· == '0')).reverse

/-- The digits of the shortest decimal and the place of its point: the value is
`0.digits * 10 ^ point`. Twenty grids are enough, for seventeen digits always read back. -/
def shortest (significand : Nat) (exponent : Int) : List Char × Int :=
  let interval := Interval.around significand exponent
  match interval.search 20 (interval.leadingPower + 1) with
  | some decimal =>
      let digits := decimalDigits decimal.digits
      (dropFinalZeros digits, (digits.length : Int) + decimal.power)
  | none => (['0'], 1)

def zeros (count : Nat) : List Char :=
  List.replicate count '0'

def exponentText (power : Int) : List Char :=
  let digits := decimalDigits power.natAbs
  (if power < 0 then '-' else '+') :: (if digits.length < 2 then '0' :: digits else digits)

/-- Where the point goes, and when an exponent is written instead. -/
def layOut (digits : List Char) (point : Int) : List Char :=
  if -4 < point ∧ point ≤ 16 then
    if point ≤ 0 then ['0', '.'] ++ zeros (-point).toNat ++ digits
    else if (digits.length : Int) ≤ point then
      digits ++ zeros (point.toNat - digits.length) ++ ['.', '0']
    else digits.take point.toNat ++ '.' :: digits.drop point.toNat
  else
    match digits with
    | [] => []
    | [only] => only :: 'e' :: exponentText (point - 1)
    | first :: rest => first :: '.' :: rest ++ 'e' :: exponentText (point - 1)

def Double.text : Double → String
  | .nan _ => "nan"
  | .infinite negative => if negative then "-inf" else "inf"
  | .finite negative significand exponent =>
      let body :=
        if significand = 0 then ['0', '.', '0']
        else
          let (digits, point) := shortest significand exponent
          layOut digits point
      String.ofList (if negative then '-' :: body else body)

end QueryWarden.Number
