/-
Query texts. A text of unknown origin may hold a line break or a tab as a backslash
and a letter; it is normalized once, before anything looks at it, so that what is
checked is what runs.
-/

namespace QueryWarden

/-- Turns each backslash with the given letter into one character, from left to right. -/
def unescape (mark meant : Char) : List Char → List Char
  | [] => []
  | [letter] => [letter]
  | letter :: next :: rest =>
      if letter = '\\' ∧ next = mark then meant :: unescape mark meant rest
      else letter :: unescape mark meant (next :: rest)

/-- Line breaks first, then tabs. -/
def normalLetters (letters : List Char) : List Char :=
  unescape 't' '\t' (unescape 'n' '\n' letters)

def normalize (text : String) : String :=
  String.ofList (normalLetters text.toList)

/-- A query whose text is taken as it stands. -/
structure Query where
  text : String
deriving DecidableEq

def Query.ofRaw (text : String) : Query :=
  ⟨normalize text⟩

/-- What a caller hands in: a text of unknown origin, or a query that is ready. -/
inductive Submission where
  | raw (text : String)
  | ready (query : Query)

def Submission.query : Submission → Query
  | .raw text => .ofRaw text
  | .ready query => query

end QueryWarden
