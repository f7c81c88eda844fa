/-
Reading conditions. Brackets are matched first, so that what stands between two of them
is one item of the text around it. Then the text is cut at each OR, the pieces at each
AND, and what is left is a negation, a condition in parentheses or an atom: a comparison,
a membership test, a call, whatever binds closer than NOT. Atoms are kept as their tokens
and nothing is assumed of what they mean.
-/

import QueryWarden.Proofs.Condition.Token
import QueryWarden.Proofs.Condition.Truth

namespace QueryWarden

/-- A conjunction or disjunction has at least one part. -/
inductive Condition where
  | atom (tokens : List Condition.Token)
  | negation (part : Condition)
  | all (first : Condition) (others : List Condition)
  | any (first : Condition) (others : List Condition)

namespace Condition

abbrev Valuation := List Token → Truth

mutual

def value (valuation : Valuation) : Condition → Truth
  | .atom tokens => valuation tokens
  | .negation part => (part.value valuation).not
  | .all first others => Truth.all (first.value valuation :: values valuation others)
  | .any first others => Truth.any (first.value valuation :: values valuation others)
termination_by structural condition => condition

def values (valuation : Valuation) : List Condition → List Truth
  | [] => []
  | part :: parts => part.value valuation :: values valuation parts
termination_by structural parts => parts

end

theorem values_eq_map (valuation : Valuation) (parts : List Condition) :
    values valuation parts = parts.map (value valuation) := by
  induction parts with
  | nil => rfl
  | cons part parts ih => rw [values, ih, List.map_cons]

/-! ### Items -/

/-- A piece of a text: a token that is no bracket, or all that stands between two brackets
with the condition that it is, if it is one. -/
inductive Item where
  | single (token : Token)
  | group (bracket : Bracket) (tokens : List Token) (inner : Option Condition)

def Item.tokens : Item → List Token
  | .single token => [token]
  | .group bracket tokens _ => .opening bracket :: (tokens ++ [.closing bracket])

def itemTokens (items : List Item) : List Token :=
  items.flatMap Item.tokens

/-- Keywords are written in letters of either case. -/
def Token.isKeyword (keyword : String) : Token → Bool
  | .word letters => letters.map Char.toUpper == keyword.toList
  | _ => false

def Item.isKeyword (keyword : String) : Item → Bool
  | .single token => token.isKeyword keyword
  | .group _ _ _ => false

/-- Keywords that no atom holds outside brackets, but for the NOT of a test with IS. The
last two would need rules of their own. -/
def connectives : List String :=
  ["OR", "AND", "NOT", "XOR", "CASE"]

def Item.isPlain (item : Item) : Bool :=
  !connectives.any item.isKeyword

/-- Whether all items can be part of an atom. The flag tells whether an IS stands before
them. -/
def fitAtom : (behindIs : Bool) → List Item → Bool
  | _, [] => true
  | behindIs, item :: items =>
      (item.isPlain || (behindIs && item.isKeyword "NOT")) && fitAtom (item.isKeyword "IS") items

/-! ### Precedence -/

def joined (join : Condition → List Condition → Condition) : List Condition → Option Condition
  | [] => none
  | [only] => some only
  | first :: others => some (join first others)

def ofParts (parts : List (List Condition)) : Option Condition :=
  (parts.mapM (joined .all)).bind (joined .any)

def operand : List Item → Option Condition
  | [] => none
  | [.group .round _ inner] => inner
  | items => if fitAtom false items then some (.atom (itemTokens items)) else none

def factor : List Item → Option Condition
  | [] => none
  | item :: items =>
      if item.isKeyword "NOT" then (factor items).map .negation else operand (item :: items)

def factors (items : List Item) : Option (List Condition) :=
  (items.splitOnP (Item.isKeyword "AND")).mapM factor

def disjuncts (items : List Item) : Option (List (List Condition)) :=
  (items.splitOnP (Item.isKeyword "OR")).mapM factors

/-! ### Brackets -/

/-- Goes on with items, inside brackets that are open with what stands before them. -/
def nestWith : (outer : List (Bracket × List Item)) → (items : List Item) → List Token →
    Option (List Item)
  | [], items, [] => some items
  | _ :: _, _, [] => none
  | outer, items, .opening bracket :: tokens => nestWith ((bracket, items) :: outer) [] tokens
  | [], _, .closing _ :: _ => none
  | (bracket, before) :: outer, items, .closing other :: tokens =>
      if other = bracket then
        nestWith outer
          (before ++ [.group bracket (itemTokens items) ((disjuncts items).bind ofParts)]) tokens
      else none
  | outer, items, token :: tokens => nestWith outer (items ++ [.single token]) tokens
termination_by structural _ _ tokens => tokens

def items (letters : List Char) : Option (List Item) :=
  (tokens letters).bind (nestWith [] [])

def parts (text : String) : Option (List (List Condition)) :=
  (items text.toList).bind disjuncts

/-- The condition that a text is, if it is one. -/
def read (text : String) : Option Condition :=
  (parts text).bind ofParts

end Condition

end QueryWarden
