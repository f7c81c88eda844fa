/-
Quoted text. A text is written between single quotes, or between double quotes
when it holds a single quote and no double one. The mark in use and the backslash
are escaped, and a character that does not print is written by its code.
-/

import QueryWarden.Text.Printable

namespace QueryWarden.Text

def hexDigit (value : Nat) : Char :=
  if value < 10 then Char.ofNat (48 + value) else Char.ofNat (87 + value)

/-- Exactly `width` hexadecimal digits, the leading ones zero. -/
def hexDigits : (width : Nat) → Nat → List Char
  | 0, _ => []
  | width + 1, value => hexDigits width (value / 16) ++ [hexDigit (value % 16)]

def quoteMark (letters : List Char) : Char :=
  if letters.contains '\'' && !letters.contains '"' then '"' else '\''

def quoteChar (mark letter : Char) : List Char :=
  if letter = mark ∨ letter = '\\' then ['\\', letter]
  else if letter = '\n' then ['\\', 'n']
  else if letter = '\r' then ['\\', 'r']
  else if letter = '\t' then ['\\', 't']
  else if isPrintable letter then [letter]
  else if letter.toNat < 0x100 then ['\\', 'x'] ++ hexDigits 2 letter.toNat
  else if letter.toNat < 0x10000 then ['\\', 'u'] ++ hexDigits 4 letter.toNat
  else ['\\', 'U'] ++ hexDigits 8 letter.toNat

def quote (letters : List Char) : List Char :=
  let mark := quoteMark letters
  mark :: letters.flatMap (quoteChar mark) ++ [mark]

def quoteText (text : String) : String :=
  String.ofList (quote text.toList)

end QueryWarden.Text
