/-
Numbers of a TOML document: integers in four bases, floating numbers, infinities and
the number that is none. Single underscores may stand between digits. Only decimal
integers can have too many digits.
-/

import QueryWarden.Format.Toml.Text

namespace QueryWarden.Toml

open Number Text

/-- Digits, each but the first perhaps behind an underscore, and what follows. -/
def spanDigits (isDigit : Char → Bool) : List Char → List Char × List Char
  | [] => ([], [])
  | [letter] => if isDigit letter then ([letter], []) else ([], [letter])
  | letter :: next :: rest =>
      if isDigit letter then
        let found := spanDigits isDigit (next :: rest)
        (letter :: found.1, found.2)
      else if letter = '_' ∧ isDigit next then
        let found := spanDigits isDigit rest
        (next :: found.1, found.2)
      else ([], letter :: next :: rest)

def digitsHere (isDigit : Char → Bool) (letters : List Char) : Option (List Char × List Char) :=
  match letters with
  | letter :: _ => if isDigit letter then some (spanDigits isDigit letters) else none
  | [] => none

def valueIn (base : Nat) (digits : List Char) : Nat :=
  valueOfDigits base (digits.filterMap Json.hexValue)

def isHexDigit (letter : Char) : Bool :=
  (Json.hexValue letter).isSome

def readBased (letters : List Char) : Option (Value × List Char) :=
  let based (base : Nat) (isDigit : Char → Bool) (rest : List Char) :
      Option (Value × List Char) :=
    (digitsHere isDigit rest).map (fun found => (.int (valueIn base found.1), found.2))
  match letters with
  | '0' :: 'x' :: rest => based 16 isHexDigit rest
  | '0' :: 'b' :: rest => based 2 (fun letter => letter == '0' || letter == '1') rest
  | '0' :: 'o' :: rest => based 8 (fun letter => '0' ≤ letter && letter ≤ '7') rest
  | _ => none

/-- The whole part of a decimal: a zero, or digits that do not start with one. -/
def readWhole (letters : List Char) : Option (List Char × List Char) :=
  match letters with
  | '0' :: rest => some (['0'], rest)
  | letters => digitsHere Char.isDigit letters

def readFraction (letters : List Char) : List Char × List Char :=
  match letters with
  | '.' :: rest => (digitsHere Char.isDigit rest).getD ([], letters)
  | letters => ([], letters)

def readPower (letters : List Char) : Option Int × List Char :=
  match letters with
  | [] => (none, [])
  | mark :: rest =>
      if isExponentMark mark then
        let (negative, body) := splitSign rest
        match digitsHere Char.isDigit body with
        | some (digits, rest) => (some (signed negative (valueIn 10 digits)), rest)
        | none => (none, letters)
      else (none, letters)

/-- A decimal number; without a fraction and a power it is an integer. -/
def readDecimal (letters : List Char) : Option (Except TextFlaw Value × List Char) :=
  let (negative, body) := splitSign letters
  match readWhole body with
  | none => none
  | some (whole, rest) =>
      let (fraction, rest) := readFraction rest
      let (power, rest) := readPower rest
      let digits := whole ++ fraction
      if fraction.isEmpty && power.isNone then
        some ((integerOfDigits negative (whole.filterMap Json.hexValue)).map .int, rest)
      else
        some (.ok (.float (Double.ofDecimal negative (valueIn 10 digits) digits.length
          (power.getD 0 - fraction.length))), rest)

def readSpecial (letters : List Char) : Option (Value × List Char) :=
  let (negative, body) := splitSign letters
  match after? "inf".toList body with
  | some rest => some (.float (.infinite negative), rest)
  | none => (after? "nan".toList body).map (fun rest => (.float (.nan 0), rest))

def readNumber (letters : List Char) : Except TextFlaw (Value × List Char) :=
  match readBased letters with
  | some found => .ok found
  | none =>
      match readDecimal letters with
      | some (value, rest) => value.map (fun value => (value, rest))
      | none =>
          match readSpecial letters with
          | some found => .ok found
          | none => .error .malformed

end QueryWarden.Toml
