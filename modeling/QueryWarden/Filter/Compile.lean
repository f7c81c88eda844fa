/-
Filters as where clauses. The text of a clause never holds a value: every leaf
refers to a parameter, numbered from the left, and the literals of the leaves are
bound to those parameters in the same order. The text and the literals are two
functions of the tree; the text does not look at the literals.
-/

import QueryWarden.Filter.Clause
import QueryWarden.Identifier.Reader

namespace QueryWarden

open Text

def Comparison.symbol : Comparison → String
  | .equal => "="
  | .notEqual => "<>"
  | .greater => ">"
  | .greaterOrEqual => ">="
  | .less => "<"
  | .lessOrEqual => "<="
  | .contains => "CONTAINS"
  | .startsWith => "STARTS WITH"
  | .endsWith => "ENDS WITH"

def FoldedComparison.symbol : FoldedComparison → String
  | .contains => "CONTAINS"
  | .equal => "="

/-- The variable that a compiled clause speaks of and the stem of its parameter names. -/
structure Compiler where
  node : Identifier
  stem : Identifier

def Compiler.parameter (compiler : Compiler) (index : Nat) : String :=
  compiler.stem.name ++ toString index

def Compiler.reference (compiler : Compiler) (index : Nat) : String :=
  "$" ++ compiler.parameter index

def Compiler.property (compiler : Compiler) (key : Identifier) : String :=
  compiler.node.name ++ "." ++ key.name

/-- A single part stands alone; several are put in parentheses and joined. -/
def joinParts (joiner : String) : List String → String
  | [only] => only
  | parts => separate joiner (parts.map (fun part => "(" ++ part ++ ")"))

mutual

def Filter.leaves : Filter → Nat
  | .all first others | .any first others => first.leaves + Filter.leavesOf others
  | .negation part => part.leaves
  | .bare _ _ => 0
  | _ => 1
termination_by structural filter => filter

def Filter.leavesOf : List Filter → Nat
  | [] => 0
  | part :: parts => part.leaves + Filter.leavesOf parts
termination_by structural parts => parts

end

mutual

/-- The text of a filter whose first leaf has the given number. -/
def Compiler.text (compiler : Compiler) : Filter → Nat → String
  | .compare comparison key _, index =>
      compiler.property key ++ " " ++ comparison.symbol ++ " " ++ compiler.reference index
  | .compareFolded comparison key _, index =>
      "toLower(" ++ compiler.property key ++ ") " ++ comparison.symbol ++ " " ++
        compiler.reference index
  | .oneOf negated key _, index =>
      (if negated then "NOT " else "") ++ compiler.property key ++ " IN " ++
        compiler.reference index
  | .matching key _, index => compiler.property key ++ " =~ " ++ compiler.reference index
  | .anyLabel _ _, index =>
      "ANY(label IN labels(" ++ compiler.node.name ++ ") WHERE label IN " ++
        compiler.reference index ++ ")"
  | .all first others, index =>
      joinParts " AND "
        (compiler.text first index :: compiler.texts others (index + first.leaves))
  | .any first others, index =>
      joinParts " OR "
        (compiler.text first index :: compiler.texts others (index + first.leaves))
  | .negation part, index => "NOT (" ++ compiler.text part index ++ ")"
  | .bare _ _, _ => ""
termination_by structural filter => filter

def Compiler.texts (compiler : Compiler) : List Filter → Nat → List String
  | [], _ => []
  | part :: parts, index =>
      compiler.text part index :: compiler.texts parts (index + part.leaves)
termination_by structural parts => parts

end

mutual

/-- The literals of the leaves from left to right, in the form in which they are bound. -/
def Filter.literals : Filter → Except Fault (List Value)
  | .compare _ _ value => .ok [value]
  | .compareFolded _ _ value =>
      (writing value.shown?).map (fun shown => [.text (lowerText shown)])
  | .oneOf _ _ values => .ok [.list values]
  | .matching _ pattern => .ok [pattern]
  | .anyLabel first others =>
      match Value.sort (first :: others) with
      | .ok labels => .ok [.list labels]
      | .error fault => .error (.access fault)
  | .all first others | .any first others =>
      match first.literals with
      | .ok values =>
          match Filter.literalsOf others with
          | .ok more => .ok (values ++ more)
          | .error fault => .error fault
      | .error fault => .error fault
  | .negation part => part.literals
  | .bare kind _ => .error (.unsupported kind.className)
termination_by structural filter => filter

def Filter.literalsOf : List Filter → Except Fault (List Value)
  | [] => .ok []
  | part :: parts =>
      match part.literals with
      | .ok values =>
          match Filter.literalsOf parts with
          | .ok more => .ok (values ++ more)
          | .error fault => .error fault
      | .error fault => .error fault
termination_by structural parts => parts

end

/-- Binds literals to numbered parameters, the first of them with the given number. -/
def Compiler.bind (compiler : Compiler) : List Value → Nat → Bindings
  | [], _ => []
  | value :: values, index =>
      (compiler.parameter index, value) :: compiler.bind values (index + 1)

/-- No filter compiles to the empty clause. -/
def Compiler.compile (compiler : Compiler) : Option Filter → Except Fault WhereClause
  | none => .ok .empty
  | some filter =>
      match filter.literals with
      | .ok values =>
          .ok { text := compiler.text filter 0, parameters := compiler.bind values 0 }
      | .error fault => .error fault

def defaultAlias : String := "e"

def defaultStem : String := "_filter_"

def Compiler.ofValues (aliasName stem : Value) : Except Fault Compiler :=
  match Identifier.ofValue "node alias" aliasName with
  | .error fault => .error fault
  | .ok aliasName =>
      match Identifier.ofValue "parameter prefix" stem with
      | .error fault => .error fault
      | .ok stem => .ok ⟨aliasName, stem⟩

end QueryWarden
