/-
Dates and times of a TOML document. A date must be one of the calendar; a time has
its seconds, perhaps with a fraction of which six digits count, and perhaps an
offset. What is kept is the text in which messages show the moment.
-/

import QueryWarden.Format.Toml.Text

namespace QueryWarden.Toml

open Number

def fixedDigits (width : Nat) (letters : List Char) : Option (Nat × List Char) :=
  match (letters.take width).mapM Json.asciiDigit with
  | some digits =>
      if digits.length = width then some (valueOfDigits 10 digits, letters.drop width) else none
  | none => none

def twoDigits (least greatest : Nat) (letters : List Char) : Option (Nat × List Char) :=
  (fixedDigits 2 letters).filter (fun found => least ≤ found.1 && found.1 ≤ greatest)

def skipMark (mark : Char) : List Char → Option (List Char)
  | letter :: rest => if letter = mark then some rest else none
  | [] => none

structure Date where
  year : Nat
  month : Nat
  day : Nat

structure Clock where
  hour : Nat
  minute : Nat
  second : Nat
  micros : Nat

def readDate (letters : List Char) : Option (Date × List Char) := do
  let (year, rest) ← fixedDigits 4 letters
  let (month, rest) ← twoDigits 1 12 (← skipMark '-' rest)
  let (day, rest) ← twoDigits 1 31 (← skipMark '-' rest)
  return ({ year := year, month := month, day := day }, rest)

/-- The fraction of a second in millionths, when a point and a digit come next. -/
def readMicros (letters : List Char) : Nat × List Char :=
  match letters with
  | '.' :: rest =>
      let digits := rest.takeWhile Char.isDigit
      if digits.isEmpty then (0, letters)
      else
        (valueOfDigits 10 ((digits ++ List.replicate 6 '0').take 6 |>.filterMap Json.asciiDigit),
          rest.dropWhile Char.isDigit)
  | letters => (0, letters)

def readClock (letters : List Char) : Option (Clock × List Char) := do
  let (hour, rest) ← twoDigits 0 23 letters
  let (minute, rest) ← twoDigits 0 59 (← skipMark ':' rest)
  let (second, rest) ← twoDigits 0 59 (← skipMark ':' rest)
  let (micros, rest) := readMicros rest
  return ({ hour := hour, minute := minute, second := second, micros := micros }, rest)

def readSignedOffset (sign : String) (letters : List Char) : Option (String × List Char) := do
  let (hour, rest) ← twoDigits 0 23 letters
  let (minute, rest) ← twoDigits 0 59 (← skipMark ':' rest)
  let shownSign := if hour = 0 ∧ minute = 0 then "+" else sign
  return (shownSign ++ pad 2 hour ++ ":" ++ pad 2 minute, rest)
where
  pad (width value : Nat) : String :=
    let digits := toString value
    String.ofList (List.replicate (width - digits.length) '0') ++ digits

/-- An offset from universal time as it is shown; there may be none. -/
def readOffset (letters : List Char) : String × List Char :=
  match letters with
  | 'Z' :: rest | 'z' :: rest => ("+00:00", rest)
  | '+' :: rest => (readSignedOffset "+" rest).getD ("", letters)
  | '-' :: rest => (readSignedOffset "-" rest).getD ("", letters)
  | letters => ("", letters)

def padded (width value : Nat) : String :=
  readSignedOffset.pad width value

def isLeapYear (year : Nat) : Bool :=
  year % 4 == 0 && (year % 100 != 0 || year % 400 == 0)

def daysInMonth (year month : Nat) : Nat :=
  if month = 2 then (if isLeapYear year then 29 else 28)
  else if month = 4 ∨ month = 6 ∨ month = 9 ∨ month = 11 then 30
  else 31

def Date.isValid (date : Date) : Bool :=
  1 ≤ date.year && date.day ≤ daysInMonth date.year date.month

def Date.text (date : Date) : String :=
  padded 4 date.year ++ "-" ++ padded 2 date.month ++ "-" ++ padded 2 date.day

def Clock.text (clock : Clock) : String :=
  padded 2 clock.hour ++ ":" ++ padded 2 clock.minute ++ ":" ++ padded 2 clock.second ++
  (if clock.micros = 0 then "" else "." ++ padded 6 clock.micros)

def isDateSeparator (letter : Char) : Bool :=
  letter == 'T' || letter == 't' || letter == ' '

def readClockAfter (letters : List Char) : Option (Clock × List Char) :=
  match letters with
  | letter :: rest => if isDateSeparator letter then readClock rest else none
  | [] => none

/-- A date, alone or with a time. The outer option tells whether a date begins here,
the inner one whether it is one of the calendar. -/
def readDateTime (letters : List Char) : Option (Option (Value × List Char)) :=
  match readDate letters with
  | none => none
  | some (date, rest) =>
      if date.isValid then
        match readClockAfter rest with
        | some (clock, rest) =>
            let (offset, rest) := readOffset rest
            some (some (.moment .dateTime (date.text ++ " " ++ clock.text ++ offset), rest))
        | none => some (some (.moment .date date.text, rest))
      else some none

def readTime (letters : List Char) : Option (Value × List Char) :=
  (readClock letters).map (fun found => (.moment .time found.1.text, found.2))

end QueryWarden.Toml
