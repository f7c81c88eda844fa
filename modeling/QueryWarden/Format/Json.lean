/-
JSON text. The reader takes the whole text or nothing. Besides the standard it
accepts `NaN`, `Infinity` and `-Infinity`, keeps integers exact, and keeps the entries
of an object in order: a repeated name has its first place and its last value. A byte
order mark at the start is refused. An integer of too many digits is a flaw of its own,
which counts if it is met before any other, and so are arrays and objects nested too
deep. A surrogate without a partner is no character,
but texts that differ in it are different; a character that the text has no use for
stands in its place.
-/

import QueryWarden.Bindings
import QueryWarden.Number.Reading
import QueryWarden.Text.Search
import QueryWarden.Text.Surrogate

namespace QueryWarden.Json

open Number Text

def isSpace (letter : Char) : Bool :=
  letter == ' ' || letter == '\t' || letter == '\n' || letter == '\r'

def skipSpace (letters : List Char) : List Char :=
  letters.dropWhile isSpace

def hexValue (letter : Char) : Option Nat :=
  if letter.isDigit then some (letter.toNat - 48)
  else if 'a' ≤ letter ∧ letter ≤ 'f' then some (letter.toNat - 87)
  else if 'A' ≤ letter ∧ letter ≤ 'F' then some (letter.toNat - 55)
  else none

def asciiDigit (letter : Char) : Option Nat :=
  if letter.isDigit then some (letter.toNat - 48) else none

/-- The text up to the closing quote, escapes as they stand, and what follows it. -/
def quotedBody : List Char → Option (List Char × List Char)
  | [] => none
  | '"' :: rest => some ([], rest)
  | '\\' :: letter :: rest =>
      (quotedBody rest).map (fun found => ('\\' :: letter :: found.1, found.2))
  | letter :: rest => (quotedBody rest).map (fun found => (letter :: found.1, found.2))

def simpleEscape : Char → Option Nat
  | '"' => some 0x22
  | '\\' => some 0x5c
  | '/' => some 0x2f
  | 'b' => some 0x08
  | 'f' => some 0x0c
  | 'n' => some 0x0a
  | 'r' => some 0x0d
  | 't' => some 0x09
  | _ => none

/-- The code units of a quoted text; control characters have to be escaped. -/
def codeUnits : List Char → Option (List Nat)
  | [] => some []
  | '\\' :: 'u' :: first :: second :: third :: fourth :: rest =>
      match [first, second, third, fourth].mapM hexValue, codeUnits rest with
      | some digits, some units => some (valueOfDigits 16 digits :: units)
      | _, _ => none
  | '\\' :: letter :: rest =>
      match simpleEscape letter, codeUnits rest with
      | some unit, some units => some (unit :: units)
      | _, _ => none
  | letter :: rest =>
      if letter.toNat < 0x20 ∨ letter = '\\' then none
      else (codeUnits rest).map (letter.toNat :: ·)

/-- The code units of a whole text in which escapes may stand anywhere. -/
def allUnits : List Char → List Nat
  | [] => []
  | '\\' :: 'u' :: first :: second :: third :: fourth :: rest =>
      match [first, second, third, fourth].mapM hexValue with
      | some digits => valueOfDigits 16 digits :: allUnits rest
      | none => allUnits (first :: second :: third :: fourth :: rest)
  | '\\' :: letter :: rest => letter.toNat :: allUnits rest
  | letter :: rest => letter.toNat :: allUnits rest

/-- Stand-ins for the surrogates of a text: characters that it has neither as they are
nor escaped. -/
def standInsFor (letters : List Char) : StandIns :=
  .ofPoints (joinUnits (allUnits letters))

def readText (standIns : StandIns) (letters : List Char) : Option (String × List Char) :=
  match quotedBody letters with
  | some (body, rest) => (codeUnits body).map (fun units => (standIns.textOfUnits units, rest))
  | none => none

/-- The fraction digits, when a point and a digit come next. -/
def splitFraction : List Char → List Char × List Char
  | '.' :: rest =>
      let digits := rest.takeWhile Char.isDigit
      if digits.isEmpty then ([], '.' :: rest) else (digits, rest.dropWhile Char.isDigit)
  | letters => ([], letters)

/-- The power of ten, when a mark, perhaps a sign, and a digit come next. -/
def splitPower : List Char → Option Int × List Char
  | [] => (none, [])
  | mark :: rest =>
      if isExponentMark mark then
        let (negative, body) := splitSign rest
        let digits := body.takeWhile Char.isDigit
        if digits.isEmpty then (none, mark :: rest)
        else
          (some (signed negative (valueOfDigits 10 (digits.filterMap asciiDigit))),
            body.dropWhile Char.isDigit)
      else (none, mark :: rest)

/-- The whole part of a number: a zero, or digits that do not start with one. -/
def splitWhole : List Char → List Char × List Char
  | '0' :: rest => (['0'], rest)
  | letters => (letters.takeWhile Char.isDigit, letters.dropWhile Char.isDigit)

/-- A number without a fraction and a power is an integer. -/
def readUnsigned (negative : Bool) (letters : List Char) :
    Except TextFlaw (Value × List Char) :=
  let (whole, rest) := splitWhole letters
  if whole.isEmpty then .error .malformed
  else
    let (fraction, rest) := splitFraction rest
    let (power, rest) := splitPower rest
    let digits := (whole ++ fraction).filterMap asciiDigit
    if fraction.isEmpty && power.isNone then
      (integerOfDigits negative digits).map (fun integer => (.int integer, rest))
    else
      .ok (.float (Double.ofDecimal negative (valueOfDigits 10 digits) digits.length
        (power.getD 0 - fraction.length)), rest)

def words : List (List Char × Value) :=
  [("null".toList, .null), ("true".toList, .bool true), ("false".toList, .bool false),
    ("NaN".toList, .float (.nan 0)), ("Infinity".toList, .float (.infinite false)),
    ("-Infinity".toList, .float (.infinite true))]

def readScalar (letters : List Char) : Except TextFlaw (Value × List Char) :=
  match words.findSome? (fun entry => (after? entry.1 letters).map (fun rest => (entry.2, rest))) with
  | some found => .ok found
  | none =>
      match letters with
      | '-' :: rest => readUnsigned true rest
      | letters => readUnsigned false letters

def readQuoted (standIns : StandIns) (letters : List Char) :
    Except TextFlaw (String × List Char) :=
  match readText standIns letters with
  | some found => .ok found
  | none => .error .malformed

mutual

/-- Every step into a list or an object takes one unit of fuel and one character, and
one of the levels that are left. -/
def readValue (standIns : StandIns) (levels : Nat) :
    (fuel : Nat) → List Char → Except TextFlaw (Value × List Char)
  | 0, _ => .error .malformed
  | fuel + 1, letters =>
      match letters with
      | '"' :: rest => (readQuoted standIns rest).map (fun found => (.text found.1, found.2))
      | '[' :: rest =>
          if levels = 0 then .error (.tooDeep .jsonArray)
          else
            match skipSpace rest with
            | ']' :: rest => .ok (.list [], rest)
            | rest =>
                (readItems standIns (levels - 1) fuel rest).map
                  (fun found => (.list found.1, found.2))
      | '{' :: rest =>
          if levels = 0 then .error (.tooDeep .jsonObject)
          else
            match skipSpace rest with
            | '}' :: rest => .ok (.map [], rest)
            | rest =>
                (readMembers standIns (levels - 1) fuel [] rest).map
                  (fun found => (.map found.1, found.2))
      | letters => readScalar letters

def readItems (standIns : StandIns) (levels : Nat) :
    (fuel : Nat) → List Char → Except TextFlaw (List Value × List Char)
  | 0, _ => .error .malformed
  | fuel + 1, letters => do
      let (item, rest) ← readValue standIns levels fuel letters
      match skipSpace rest with
      | ']' :: rest => return ([item], rest)
      | ',' :: rest =>
          let (items, rest) ← readItems standIns levels fuel (skipSpace rest)
          return (item :: items, rest)
      | _ => throw .malformed

def readMembers (standIns : StandIns) (levels : Nat) :
    (fuel : Nat) → Bindings → List Char → Except TextFlaw (Bindings × List Char)
  | 0, _, _ => .error .malformed
  | fuel + 1, entries, letters =>
      match letters with
      | '"' :: rest => do
          let (name, rest) ← readQuoted standIns rest
          match skipSpace rest with
          | ':' :: rest =>
              let (value, rest) ← readValue standIns levels fuel (skipSpace rest)
              let entries := Bindings.put name value entries
              match skipSpace rest with
              | '}' :: rest => return (entries, rest)
              | ',' :: rest => readMembers standIns levels fuel entries (skipSpace rest)
              | _ => throw .malformed
          | _ => throw .malformed
      | _ => .error .malformed

end

def parse (text : String) : Except TextFlaw Value := do
  let letters := text.toList
  let (value, rest) ← readValue (standInsFor letters) jsonDepth (2 * letters.length + 2)
    (skipSpace letters)
  if (skipSpace rest).isEmpty then return value else throw .malformed

end QueryWarden.Json
