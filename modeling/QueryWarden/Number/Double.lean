/-
Double precision numbers as exact data. A finite number is a sign, a significand
and a power of two; the two zeros are told apart by the sign alone. This file has
the values, their exact quantities and the rounding of a fraction to the nearest
double. Reading and writing them as text stand in modules of their own.
-/

namespace QueryWarden.Number

def twoTo (exponent : Nat) : Nat :=
  Nat.pow 2 exponent

def tenTo (exponent : Nat) : Nat :=
  Nat.pow 10 exponent

/-- A finite number is `± significand * 2 ^ exponent`. What is no number has a mark, by
which one that is met again is told from another. -/
inductive Double where
  | nan (mark : Nat)
  | infinite (negative : Bool)
  | finite (negative : Bool) (significand : Nat) (exponent : Int)
deriving DecidableEq

/-- What a number that is not `nan` measures: a rational, or an infinity. -/
inductive Quantity where
  | belowAll
  | rational (value : Rat)
  | aboveAll
deriving DecidableEq

def Quantity.less : Quantity → Quantity → Bool
  | .belowAll, .belowAll => false
  | .belowAll, _ => true
  | .rational left, .rational right => left < right
  | .rational _, .aboveAll => true
  | _, _ => false

/-- The whole part of a scaled significand, with the sign put back. -/
def signed (negative : Bool) (magnitude : Nat) : Int :=
  if negative then -(magnitude : Int) else (magnitude : Int)

def scaled (significand : Int) (exponent : Int) : Rat :=
  if 0 ≤ exponent then ((significand * (twoTo exponent.toNat : Int) : Int) : Rat)
  else mkRat significand (twoTo (-exponent).toNat)

def Double.quantity : Double → Option Quantity
  | .nan _ => none
  | .infinite true => some .belowAll
  | .infinite false => some .aboveAll
  | .finite negative significand exponent =>
      some (.rational (scaled (signed negative significand) exponent))

def Double.isZero : Double → Bool
  | .finite _ significand _ => significand == 0
  | _ => false

/-- The integer nearest to a finite number on the side of zero. -/
def Double.truncate (negative : Bool) (significand : Nat) (exponent : Int) : Int :=
  signed negative
    (if 0 ≤ exponent then significand * twoTo exponent.toNat
      else significand / twoTo (-exponent).toNat)

/-- The nearest whole number to a fraction; of two, the even one. -/
def roundHalfEven (numerator denominator : Nat) : Nat :=
  let whole := numerator / denominator
  let twice := 2 * (numerator % denominator)
  if twice < denominator then whole
  else if denominator < twice then whole + 1
  else whole + whole % 2

def leastExponent : Int := -1074

def greatestExponent : Int := 971

/-- The power of two at or just below a positive fraction. -/
def fractionLog2 (numerator denominator : Nat) : Int :=
  let guess : Int := (Nat.log2 numerator : Int) - (Nat.log2 denominator : Int)
  let reached :=
    if 0 ≤ guess then denominator * twoTo guess.toNat ≤ numerator
    else denominator ≤ numerator * twoTo (-guess).toNat
  if reached then guess else guess - 1

/-- The double nearest to `± numerator / denominator`. Its significand has 53 bits
unless the exponent is the least one; a result past the largest double is infinite. -/
def Double.ofFraction (negative : Bool) (numerator denominator : Nat) : Double :=
  if numerator = 0 then .finite negative 0 leastExponent
  else
    let exponent := max (fractionLog2 numerator denominator - 52) leastExponent
    let rounded :=
      if 0 ≤ exponent then roundHalfEven numerator (denominator * twoTo exponent.toNat)
      else roundHalfEven (numerator * twoTo (-exponent).toNat) denominator
    let (significand, exponent) :=
      if rounded = twoTo 53 then (twoTo 52, exponent + 1) else (rounded, exponent)
    if greatestExponent < exponent then .infinite negative
    else .finite negative significand exponent

/-- The double nearest to `± digits * 10 ^ power`, where `width` bounds the number
of decimal digits: far outside the range no power of ten has to be computed. -/
def Double.ofDecimal (negative : Bool) (digits : Nat) (width : Nat) (power : Int) : Double :=
  if digits = 0 then .finite negative 0 leastExponent
  else if 400 < power then .infinite negative
  else if (width : Int) + power < -400 then .finite negative 0 leastExponent
  else if 0 ≤ power then ofFraction negative (digits * tenTo power.toNat) 1
  else ofFraction negative digits (tenTo (-power).toNat)

end QueryWarden.Number
