/-
The two texts of a value: the written form, which quotes texts, and the displayed
form, which differs only for a text, shown as it is. Filters and clauses are written
with the names of their fields. An integer with too many digits has neither text, and
nor has a value that holds one.
-/

import QueryWarden.Number.Reading
import QueryWarden.Number.Shortest
import QueryWarden.Text.Quoted
import QueryWarden.Value.Basic

namespace QueryWarden

open Text

def separate (separator : String) (pieces : List String) : String :=
  String.intercalate separator pieces

/-- Written items in parentheses; a single one is followed by a comma. -/
def inParentheses : List String → String
  | [only] => "(" ++ only ++ ",)"
  | pieces => "(" ++ separate ", " pieces ++ ")"

def inBrackets (pieces : List String) : String :=
  "[" ++ separate ", " pieces ++ "]"

def inBraces (pieces : List String) : String :=
  "\x7b" ++ separate ", " pieces ++ "\x7d"

/-- A class with its fields, each by its name and in written form. -/
def writtenFields (className : String) (fields : List (String × String)) : String :=
  className ++ "(" ++ separate ", " (fields.map (fun field => field.1 ++ "=" ++ field.2)) ++ ")"

/-- A leaf of a filter: its key and the other field it has. -/
def writtenLeaf (className : String) (key : Identifier) (field : String) (written : String) :
    String :=
  writtenFields className [("key", quoteText key.name), (field, written)]

mutual

def Value.written? : Value → Option String
  | .null => some "None"
  | .bool value => some (if value then "True" else "False")
  | .int value => if Number.isUnwritable value then none else some (toString value)
  | .float value => some value.text
  | .text value => some (quoteText value)
  | .list items => (Value.writtenItems? items).map inBrackets
  | .tuple items => (Value.writtenItems? items).map inParentheses
  | .set items =>
      if items.isEmpty then some "set()" else (Value.writtenItems? items).map inBraces
  | .map entries => (Value.writtenEntries? entries).map inBraces
  | .moment _ written => some written
  | .filter tree => Filter.written? tree
  | .clause wording parameters => do
      let wording ← wording.written?
      let parameters ← Value.writtenPairs? parameters
      return writtenFields "CompiledFilter" [("clause", wording),
        ("parameters", "mappingproxy(" ++ inBraces parameters ++ ")")]
termination_by structural value => value

def Value.writtenItems? : List Value → Option (List String)
  | [] => some []
  | item :: items => do
      let written ← item.written?
      let others ← Value.writtenItems? items
      return written :: others
termination_by structural items => items

def Value.writtenEntries? : List (String × Value) → Option (List String)
  | [] => some []
  | (name, value) :: entries => do
      let written ← value.written?
      let others ← Value.writtenEntries? entries
      return (quoteText name ++ ": " ++ written) :: others
termination_by structural entries => entries

def Value.writtenPairs? : List (Value × Value) → Option (List String)
  | [] => some []
  | (name, value) :: pairs => do
      let name ← name.written?
      let written ← value.written?
      let others ← Value.writtenPairs? pairs
      return (name ++ ": " ++ written) :: others
termination_by structural pairs => pairs

def Filter.written? : Filter → Option String
  | .compare comparison key value => value.written?.map (writtenLeaf comparison.className key "value")
  | .compareFolded comparison key value =>
      value.written?.map (writtenLeaf comparison.className key "value")
  | .oneOf negated key values =>
      (Value.writtenItems? values).map (fun values =>
        writtenLeaf (if negated then "NotIn" else "In") key "values" (inParentheses values))
  | .matching key pattern => pattern.written?.map (writtenLeaf "MatchesPattern" key "pattern")
  | .anyLabel first others => do
      let first ← first.written?
      let others ← Value.writtenItems? others
      return writtenFields "HasAnyLabel"
        [("labels", "frozenset(" ++ inBraces (first :: others) ++ ")")]
  | .all first others => do
      let first ← Filter.written? first
      let others ← Filter.writtenParts? others
      return writtenFields "And" [("filters", inParentheses (first :: others))]
  | .any first others => do
      let first ← Filter.written? first
      let others ← Filter.writtenParts? others
      return writtenFields "Or" [("filters", inParentheses (first :: others))]
  | .negation part => (Filter.written? part).map (fun part => writtenFields "Not" [("filter", part)])
  | .bare kind _ => some (writtenFields kind.className [])
termination_by structural filter => filter

def Filter.writtenParts? : List Filter → Option (List String)
  | [] => some []
  | part :: parts => do
      let written ← Filter.written? part
      let others ← Filter.writtenParts? parts
      return written :: others
termination_by structural parts => parts

end

def Value.shown? : Value → Option String
  | .text value => some value
  | value => value.written?

/-- Texts in written form; of them there is always one. -/
def writtenTexts (texts : List String) : String :=
  inBrackets (texts.map quoteText)

theorem written?_ofTexts (texts : List String) :
    (Value.ofTexts texts).written? = some (writtenTexts texts) := by
  have items : Value.writtenItems? (texts.map .text) = some (texts.map quoteText) := by
    induction texts with
    | nil => rfl
    | cons text texts ih =>
        rw [List.map_cons, Value.writtenItems?, ih]
        rfl
  rw [Value.ofTexts, Value.written?, items]
  rfl

end QueryWarden
