/-
Texts of a TOML document: keys and strings of four kinds. Basic strings have escapes,
literal strings have none; each may run over several lines between triple quotes.
-/

import QueryWarden.Format.Json

namespace QueryWarden.Toml

open Number Text

def isSpace (letter : Char) : Bool :=
  letter == ' ' || letter == '\t'

def isSpaceOrBreak (letter : Char) : Bool :=
  isSpace letter || letter == '\n'

def skipSpace (letters : List Char) : List Char :=
  letters.dropWhile isSpace

def isControl (letter : Char) : Bool :=
  (letter.toNat < 0x20 || letter.toNat == 0x7f) && letter != '\t'

/-- Characters that may not stand in a string as they are. -/
def isIllegal (manyLines : Bool) (letter : Char) : Bool :=
  isControl letter && !(manyLines && letter == '\n')

def simpleEscape : Char → Option Char
  | 'b' => some '\x08'
  | 't' => some '\t'
  | 'n' => some '\n'
  | 'f' => some '\x0c'
  | 'r' => some '\r'
  | '"' => some '"'
  | '\\' => some '\\'
  | _ => none

/-- A character by the given number of hexadecimal digits; surrogates are none. -/
def codeEscape (width : Nat) (letters : List Char) : Option (List Char × List Char) :=
  match (letters.take width).mapM Json.hexValue with
  | none => none
  | some digits =>
      let code := valueOfDigits 16 digits
      if digits.length = width ∧ (code < 0xd800 ∨ (0xe000 ≤ code ∧ code < 0x110000)) then
        some ([Char.ofNat code], letters.drop width)
      else none

/-- A backslash at the end of a line takes the break and all blanks behind it away. -/
def joinLines (letters : List Char) : Option (List Char × List Char) :=
  match skipSpace letters with
  | [] => some ([], [])
  | '\n' :: rest => some ([], rest.dropWhile isSpaceOrBreak)
  | _ => none

def readEscape (manyLines : Bool) : List Char → Option (List Char × List Char)
  | [] => none
  | 'u' :: rest => codeEscape 4 rest
  | 'U' :: rest => codeEscape 8 rest
  | letter :: rest =>
      if manyLines && isSpaceOrBreak letter then joinLines (letter :: rest)
      else (simpleEscape letter).map (fun meant => ([meant], rest))

/-- The rest of a basic string and what follows its closing quotes. Every step takes
one unit of fuel and one character. -/
def basicBody (manyLines : Bool) : (fuel : Nat) → List Char → Option (List Char × List Char)
  | 0, _ => none
  | fuel + 1, letters =>
      let continueWith (front rest : List Char) : Option (List Char × List Char) :=
        (basicBody manyLines fuel rest).map (fun found => (front ++ found.1, found.2))
      match letters with
      | [] => none
      | '"' :: rest =>
          if manyLines then
            match after? ['"', '"'] rest with
            | some rest => some ([], rest)
            | none => continueWith ['"'] rest
          else some ([], rest)
      | '\\' :: rest =>
          match readEscape manyLines rest with
          | some (front, rest) => continueWith front rest
          | none => none
      | letter :: rest =>
          if isIllegal manyLines letter then none else continueWith [letter] rest

def readBasic (manyLines : Bool) (letters : List Char) : Option (List Char × List Char) :=
  basicBody manyLines (letters.length + 1) letters

def upTo (closing : List Char) : List Char → Option (List Char × List Char)
  | [] => none
  | letter :: rest =>
      match after? closing (letter :: rest) with
      | some rest => some ([], rest)
      | none => (upTo closing rest).map (fun found => (letter :: found.1, found.2))

def readLiteral (manyLines : Bool) (letters : List Char) : Option (List Char × List Char) :=
  match upTo (if manyLines then ['\'', '\'', '\''] else ['\'']) letters with
  | some (body, rest) => if body.any (isIllegal manyLines) then none else some (body, rest)
  | none => none

/-- One or two quotes right before the closing ones belong to the text. -/
def withFinalQuotes (mark : Char) (found : List Char × List Char) : List Char × List Char :=
  match after? [mark, mark] found.2 with
  | some rest => (found.1 ++ [mark, mark], rest)
  | none =>
      match after? [mark] found.2 with
      | some rest => (found.1 ++ [mark], rest)
      | none => found

def skipFirstBreak : List Char → List Char
  | '\n' :: rest => rest
  | letters => letters

def readText (letters : List Char) : Option (List Char × List Char) :=
  match letters with
  | '"' :: '"' :: '"' :: rest =>
      (readBasic true (skipFirstBreak rest)).map (withFinalQuotes '"')
  | '"' :: rest => readBasic false rest
  | '\'' :: '\'' :: '\'' :: rest =>
      (readLiteral true (skipFirstBreak rest)).map (withFinalQuotes '\'')
  | '\'' :: rest => readLiteral false rest
  | _ => none

def isBareKeyPart (letter : Char) : Bool :=
  letter.isAlphanum || letter == '-' || letter == '_'

/-- A part of a key: a bare word, or a string on one line. -/
def readKeyPart (letters : List Char) : Option (String × List Char) :=
  match letters with
  | '"' :: rest => (readBasic false rest).map (fun found => (String.ofList found.1, found.2))
  | '\'' :: rest => (readLiteral false rest).map (fun found => (String.ofList found.1, found.2))
  | letters =>
      let word := letters.takeWhile isBareKeyPart
      if word.isEmpty then none
      else some (String.ofList word, letters.dropWhile isBareKeyPart)

abbrev Key := List String

/-- The parts behind a first one, each behind a point; blanks around points are free. -/
def moreKeyParts : (fuel : Nat) → List Char → Option (Key × List Char)
  | 0, _ => none
  | fuel + 1, letters =>
      match letters with
      | '.' :: rest =>
          match readKeyPart (skipSpace rest) with
          | some (part, rest) =>
              (moreKeyParts fuel (skipSpace rest)).map (fun found => (part :: found.1, found.2))
          | none => none
      | letters => some ([], letters)

def readKey (letters : List Char) : Option (Key × List Char) :=
  match readKeyPart letters with
  | some (part, rest) =>
      (moreKeyParts (rest.length + 1) (skipSpace rest)).map
        (fun found => (part :: found.1, found.2))
  | none => none

/-- What follows a comment, which may hold no control characters. -/
def skipComment (letters : List Char) : Option (List Char) :=
  match letters with
  | '#' :: rest =>
      if (rest.takeWhile (· != '\n')).any isControl then none
      else some (rest.dropWhile (· != '\n'))
  | letters => some letters

/-- Blanks, breaks and comments between the items of an array. -/
def skipVoid : (fuel : Nat) → List Char → Option (List Char)
  | 0, _ => none
  | fuel + 1, letters =>
      match letters.dropWhile isSpaceOrBreak with
      | '#' :: rest =>
          match skipComment ('#' :: rest) with
          | some rest => skipVoid fuel rest
          | none => none
      | letters => some letters

end QueryWarden.Toml
