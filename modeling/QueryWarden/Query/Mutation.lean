/-
Read-only queries. A query is refused when, in upper case, a write keyword stands in
it as a word, when it calls a procedure that writes, or when it does not begin with
a read clause. The checks run in this order and the first refusal counts.
-/

import QueryWarden.Fault
import QueryWarden.Query.Normal
import QueryWarden.Text.Blank
import QueryWarden.Text.Search

namespace QueryWarden

open Text

namespace Mutation

def writeKeywords : List String :=
  ["CREATE", "MERGE", "SET", "DELETE", "REMOVE", "DETACH", "DROP"]

def writeProcedures : List String :=
  ["APOC.CREATE", "APOC.MERGE", "APOC.REFACTOR", "APOC.PERIODIC", "APOC.CYPHER.DOIT",
    "APOC.ATOMIC", "APOC.LOCK", "DBMS.SECURITY"]

/-- A procedure writes when the last part of its name starts with one of these. -/
def writeVerbs : List String :=
  ["CREATE", "SET", "DELETE", "DROP", "MERGE", "REMOVE", "ADD", "KILL"]

def readStarts : List String :=
  ["MATCH", "OPTIONAL", "WITH", "CALL", "RETURN", "UNWIND"]

def isProcedurePart (letter : Char) : Bool :=
  letter.isUpper || letter.isDigit || letter == '_' || letter == '.'

def lastSegment (name : List Char) : List Char :=
  (name.reverse.takeWhile (· != '.')).reverse

def startsWithVerb (segment : List Char) : Bool :=
  writeVerbs.any (fun verb => (after? verb.toList segment).isSome)

def isWriteProcedure (name : List Char) : Bool :=
  name.contains '.' && startsWithVerb (lastSegment name)

/-- The name of the procedure, when the text begins with a call and blanks. -/
def calledHere (letters : List Char) : Option (List Char) :=
  match after? "CALL".toList letters with
  | none => none
  | some rest =>
      match rest with
      | [] => none
      | letter :: _ =>
          if isBlank letter then some ((dropBlanks rest).takeWhile isProcedurePart) else none

/-- The first call of a procedure whose name starts its last part with a write verb. The
flag tells whether the character before the text is a word character. -/
def writeCallAfter : (inWord : Bool) → List Char → Option (List Char)
  | _, [] => none
  | inWord, letter :: letters =>
      match if inWord then none else (calledHere (letter :: letters)).filter isWriteProcedure with
      | some name => some name
      | none => writeCallAfter (isWord letter) letters

def writeKeyword? (upper : List Char) : Option String :=
  writeKeywords.find? (fun keyword => hasWord keyword.toList upper)

/-- A procedure that writes, in a text in which something is called at all. -/
def writeProcedure? (upper : List Char) : Option String :=
  if hasWord "CALL".toList upper then
    match writeProcedures.find? (fun procedure => occurs procedure.toList upper) with
    | some procedure => some procedure
    | none => (writeCallAfter false upper).map String.ofList
  else none

def isTokenPart (letter : Char) : Bool :=
  letter.isUpper || letter == '_'

/-- The first token of a text: letters and underscores, or else twenty characters. -/
def firstToken (upper : List Char) : List Char :=
  let trimmed := trim upper
  let token := trimmed.takeWhile isTokenPart
  if token.isEmpty then trimmed.take 20 else token

def refusal? (upper : List Char) : Option Rejection :=
  match writeKeyword? upper with
  | some keyword => some (.ofKeyword keyword)
  | none =>
      match writeProcedure? upper with
      | some procedure => some (.ofProcedure procedure)
      | none =>
          let token := String.ofList (firstToken upper)
          if readStarts.contains token then none
          else some (.ofToken token readStarts)

def check (query : Query) : Except Rejection Unit :=
  match refusal? (upper query.text.toList) with
  | some rejection => .error rejection
  | none => .ok ()

end Mutation

end QueryWarden
