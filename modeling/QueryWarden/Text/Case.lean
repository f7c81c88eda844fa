/-
Upper and lower case of a text by the full Unicode mappings. A character may
become several. Upper case looks at each character alone; lower case does too,
except for the capital sigma, which takes its final form after a cased character
and before none.
-/

import QueryWarden.Text.CaseTable

namespace QueryWarden.Text

def mapCase (runs : List CaseRun) (sequences : List (Nat × List Nat)) (letter : Char) :
    List Char :=
  match sequences.lookup letter.toNat with
  | some codes => codes.map Char.ofNat
  | none =>
      match shiftBy runs letter.toNat with
      | some code => [Char.ofNat code]
      | none => [letter]

def upperChar (letter : Char) : List Char :=
  if letter.toNat < 128 then [letter.toUpper]
  else mapCase upperRuns upperSequences letter

def upper (letters : List Char) : List Char :=
  letters.flatMap upperChar

def lowerChar (letter : Char) : List Char :=
  if letter.toNat < 128 then [letter.toLower]
  else mapCase lowerRuns lowerSequences letter

def isCased (letter : Char) : Bool :=
  inRanges casedRanges letter

def isCaseIgnorable (letter : Char) : Bool :=
  inRanges caseIgnorableRanges letter

def casedFollows (letters : List Char) : Bool :=
  match letters.dropWhile isCaseIgnorable with
  | [] => false
  | letter :: _ => isCased letter

/-- The flag tells whether the text read so far ends, but for characters that are
passed over, in a cased one. -/
def lowerAfter (cased : Bool) : List Char → List Char
  | [] => []
  | letter :: rest =>
      (if letter = 'Σ' then (if cased && !casedFollows rest then ['ς'] else ['σ'])
        else lowerChar letter) ++
      lowerAfter (if isCaseIgnorable letter then cased else isCased letter) rest

def lower (letters : List Char) : List Char :=
  lowerAfter false letters

def lowerText (text : String) : String :=
  String.ofList (lower text.toList)

theorem upper_append (left right : List Char) : upper (left ++ right) = upper left ++ upper right :=
  List.flatMap_append

end QueryWarden.Text
