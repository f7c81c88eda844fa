/-
Numbers read from text. Integers have an optional sign and decimal digits of any
script, single underscores between digits, and may stand between blanks. Floating
numbers are read from digits, a point and an exponent, or from the names of the
infinities and of the number that is none.
-/

import QueryWarden.Depth
import QueryWarden.Number.Double
import QueryWarden.Text.Blank
import QueryWarden.Text.Word

namespace QueryWarden.Number

open QueryWarden.Text

/-- The value of decimal digits, the first one most significant. -/
def valueOfDigits (base : Nat) (digits : List Nat) : Nat :=
  digits.foldl (fun value digit => value * base + digit) 0

/-- Digits with single underscores between them, and what follows them. An underscore
that stands anywhere else has no reading. -/
def spanDigits (digit : Char → Option Nat) : List Char → Option (List Nat × List Char)
  | [] => some ([], [])
  | '_' :: _ => none
  | letter :: '_' :: rest =>
      match digit letter, spanDigits digit rest with
      | none, _ => some ([], letter :: '_' :: rest)
      | some value, some (next :: values, left) => some (value :: next :: values, left)
      | some _, _ => none
  | letter :: rest =>
      match digit letter with
      | none => some ([], letter :: rest)
      | some value => (spanDigits digit rest).map (fun found => (value :: found.1, found.2))

/-- Digits with single underscores between them. Blank and empty texts have none. -/
def readDigits (digit : Char → Option Nat) (letters : List Char) : Option (List Nat) :=
  match spanDigits digit letters with
  | some (first :: others, []) => some (first :: others)
  | _ => none

/-- A sign and what follows it; no sign is a plus. -/
def splitSign : List Char → Bool × List Char
  | '-' :: rest => (true, rest)
  | '+' :: rest => (false, rest)
  | letters => (false, letters)

/-- Blanks around a number: the ASCII separators `\x1c` to `\x1f` do not count. -/
def isNumberBlank (letter : Char) : Bool :=
  isBlank letter && !(0x1c ≤ letter.toNat && letter.toNat ≤ 0x1f)

def trimNumber (letters : List Char) : List Char :=
  dropRightWhile isNumberBlank (letters.dropWhile isNumberBlank)

/-- What is wrong with a text that is read: it is not of the form asked for, it has an
integer of too many decimal digits, or its parts are nested too deep. -/
inductive TextFlaw where
  | malformed
  | tooLong (digits : Nat)
  | tooDeep (descent : Descent)
deriving DecidableEq

/-- The most decimal digits that an integer is read from or written with. -/
def longestInteger : Nat := 4300

/-- An integer of decimal digits. Digits in front count even if they are zeros. -/
def integerOfDigits (negative : Bool) (digits : List Nat) : Except TextFlaw Int :=
  if longestInteger < digits.length then .error (.tooLong digits.length)
  else .ok (signed negative (valueOfDigits 10 digits))

/-- Whether the text of an integer has too many digits to be written. -/
def isUnwritable (integer : Int) : Bool :=
  longestInteger < (toString integer.natAbs).length

/-- The number of digits is looked at before what follows them. -/
def readInteger (letters : List Char) : Except TextFlaw Int :=
  let (negative, body) := splitSign (trimNumber letters)
  match spanDigits digitValue body with
  | none | some ([], _) => .error .malformed
  | some (digits, rest) =>
      match integerOfDigits negative digits with
      | .error flaw => .error flaw
      | .ok integer => if rest.isEmpty then .ok integer else .error .malformed

/-- An optional exponent: its mark, a sign and digits, up to the end of the text. -/
def readExponent (digit : Char → Option Nat) : List Char → Option Int
  | [] => some 0
  | mark :: rest =>
      if mark = 'e' ∨ mark = 'E' then
        let (negative, digits) := splitSign rest
        (readDigits digit digits).map (fun values => signed negative (valueOfDigits 10 values))
      else none

def isExponentMark (letter : Char) : Bool :=
  letter == 'e' || letter == 'E'

def readSide (digit : Char → Option Nat) (letters : List Char) : Option (List Nat) :=
  if letters.isEmpty then some [] else readDigits digit letters

/-- An unsigned decimal: digits, perhaps a point and more digits, perhaps an exponent. -/
def readUnsigned (digit : Char → Option Nat) (negative : Bool) (letters : List Char) :
    Option Double :=
  let mantissa := letters.takeWhile (fun letter => !isExponentMark letter)
  let exponent := letters.dropWhile (fun letter => !isExponentMark letter)
  let whole := mantissa.takeWhile (· != '.')
  let fraction := (mantissa.dropWhile (· != '.')).drop 1
  match readSide digit whole, readSide digit fraction, readExponent digit exponent with
  | some left, some right, some power =>
      let digits := left ++ right
      if digits.isEmpty then none
      else some (Double.ofDecimal negative (valueOfDigits 10 digits) digits.length
        (power - right.length))
  | _, _, _ => none

def readDouble (letters : List Char) : Option Double :=
  let (negative, body) := splitSign (trimNumber letters)
  let name := String.ofList (body.map Char.toLower)
  if name = "nan" then some (.nan 0)
  else if name = "inf" ∨ name = "infinity" then some (.infinite negative)
  else readUnsigned digitValue negative body

end QueryWarden.Number
