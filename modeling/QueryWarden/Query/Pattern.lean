/-
The names that a query uses in its patterns: labels behind an opening parenthesis,
relationship types behind an opening bracket. A pattern has an optional variable, a
colon and names with separators between them. Nothing else of the query is looked
at, and quoted text is not told apart from code.
-/

import QueryWarden.Query.Normal
import QueryWarden.Text.Blank
import QueryWarden.Text.Name
import QueryWarden.Value.Sort

namespace QueryWarden

open Text

namespace Pattern

inductive Kind where
  | node
  | relationship
deriving DecidableEq

def Kind.opening : Kind → Char
  | .node => '('
  | .relationship => '['

/-- What follows the separator of two labels, blanks included. -/
def labelSeparator (letters : List Char) : Option (List Char) :=
  match dropBlanks letters with
  | [] => none
  | letter :: rest =>
      if letter = ':' ∨ letter = '|' ∨ letter = '&' then some (dropBlanks rest) else none

/-- Types are separated by a bar, behind which a colon may stand. -/
def typeSeparator (letters : List Char) : Option (List Char) :=
  match dropBlanks letters with
  | '|' :: rest =>
      match dropBlanks rest with
      | ':' :: rest => some (dropBlanks rest)
      | rest => some rest
  | _ => none

def Kind.separator : Kind → List Char → Option (List Char)
  | .node => labelSeparator
  | .relationship => typeSeparator

theorem dropBlanks_length_le (letters : List Char) :
    (dropBlanks letters).length ≤ letters.length :=
  (List.dropWhile_sublist isBlank).length_le

theorem labelSeparator_length_le {letters rest : List Char}
    (found : labelSeparator letters = some rest) : rest.length ≤ letters.length := by
  have bound := dropBlanks_length_le letters
  unfold labelSeparator at found
  cases shape : dropBlanks letters with
  | nil => rw [shape] at found; cases found
  | cons letter tail =>
      rw [shape] at found bound
      have inner := dropBlanks_length_le tail
      simp only [List.length_cons] at bound
      by_cases mark : letter = ':' ∨ letter = '|' ∨ letter = '&'
      · simp only [mark, if_true, Option.some.injEq] at found
        rw [← found]
        omega
      · simp only [mark, if_false] at found
        cases found

theorem typeSeparator_length_le {letters rest : List Char}
    (found : typeSeparator letters = some rest) : rest.length ≤ letters.length := by
  have bound := dropBlanks_length_le letters
  unfold typeSeparator at found
  split at found
  · rename_i tail shape
    rw [shape] at bound
    have inner := dropBlanks_length_le tail
    simp only [List.length_cons] at bound
    split at found
    · rename_i deeper colon
      rw [colon] at inner
      have last := dropBlanks_length_le deeper
      simp only [List.length_cons] at inner
      simp only [Option.some.injEq] at found
      rw [← found]
      omega
    · simp only [Option.some.injEq] at found
      rw [← found]
      omega
  · cases found

theorem Kind.separator_length_le {kind : Kind} {letters rest : List Char}
    (found : kind.separator letters = some rest) : rest.length ≤ letters.length := by
  cases kind with
  | node => exact labelSeparator_length_le found
  | relationship => exact typeSeparator_length_le found

/-- The names that follow a first one, each behind a separator. -/
def moreNames (kind : Kind) (letters : List Char) : List (List Char) :=
  match _separated : kind.separator letters with
  | none => []
  | some rest =>
      match _named : takeName rest with
      | none => []
      | some (name, rest) => name :: moreNames kind rest
termination_by letters.length
decreasing_by
  have bound := Kind.separator_length_le _separated
  have shorter := takeName_shorter _named
  omega

def skipVariable (letters : List Char) : List Char :=
  match takeName letters with
  | some (_, rest) => rest
  | none => letters

/-- The names of the pattern whose opening has just been read. -/
def namesHere (kind : Kind) (letters : List Char) : List (List Char) :=
  match dropBlanks (skipVariable (dropBlanks letters)) with
  | ':' :: rest =>
      match takeName (dropBlanks rest) with
      | some (name, rest) => name :: moreNames kind rest
      | none => []
  | _ => []

def names (kind : Kind) : List Char → List (List Char)
  | [] => []
  | letter :: rest =>
      (if letter = kind.opening then namesHere kind rest else []) ++ names kind rest

def used (kind : Kind) (text : String) : List String :=
  sortedSet ((names kind text.toList).map String.ofList)

end Pattern

def Query.labels (query : Query) : List String :=
  Pattern.used .node query.text

def Query.relationshipTypes (query : Query) : List String :=
  Pattern.used .relationship query.text

end QueryWarden
