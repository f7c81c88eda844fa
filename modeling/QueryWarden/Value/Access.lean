/-
Access to values whose shape is not known beforehand: walking through the items,
taking a field, counting. Each way that a value can be of the wrong type has its
own fault, and the wording of all of them is in one place.
-/

import QueryWarden.Value.Equality
import QueryWarden.Value.Text

namespace QueryWarden

open Text

inductive AccessFault where
  | missingKey (key : String)
  | notSubscriptable (typeName : String)
  | badTextIndex (typeName : String)
  | badIndex (family : String) (typeName : String)
  | notHashable (typeName : String)
  | notIterable (typeName : String)
  | notMapping (typeName : String)
  | noAttribute (typeName : String) (member : String)
  | noLength (typeName : String)
  | notOrdered (left right : String)
  | notPair (place : Nat)
  | pairLength (place length : Nat)
  | notNamed (operation typeName : String)
  | notText (place : Nat) (typeName : String)
  | badOperand (operator : String) (typeNames : List String)
  | notValidator (written : String)

def AccessFault.message : AccessFault → String
  | .missingKey key => quoteText key
  | .notSubscriptable typeName => "'" ++ typeName ++ "' object is not subscriptable"
  | .badTextIndex typeName =>
      "string indices must be integers, not '" ++ typeName ++ "'"
  | .badIndex family typeName =>
      family ++ " indices must be integers or slices, not " ++ typeName
  | .notHashable typeName => "unhashable type: '" ++ typeName ++ "'"
  | .notIterable typeName => "'" ++ typeName ++ "' object is not iterable"
  | .notMapping typeName => "'" ++ typeName ++ "' object is not a mapping"
  | .noAttribute typeName member =>
      "'" ++ typeName ++ "' object has no attribute '" ++ member ++ "'"
  | .noLength typeName => "object of type '" ++ typeName ++ "' has no len()"
  | .notOrdered left right =>
      "'<' not supported between instances of '" ++ left ++ "' and '" ++ right ++ "'"
  | .notPair place =>
      "cannot convert dictionary update sequence element #" ++ toString place ++
        " to a sequence"
  | .pairLength place length =>
      "dictionary update sequence element #" ++ toString place ++ " has length " ++
        toString length ++ "; 2 is required"
  | .notNamed operation typeName =>
      operation ++ "() argument after ** must be a mapping, not " ++ typeName
  | .notText place typeName =>
      "sequence item " ++ toString place ++ ": expected str instance, " ++ typeName ++
        " found"
  | .badOperand operator typeNames =>
      match typeNames with
      | [only] => "bad operand type for unary " ++ operator ++ ": '" ++ only ++ "'"
      | typeNames =>
          "unsupported operand type(s) for " ++ operator ++ ": " ++
            separate " and " (typeNames.map (fun typeName => "'" ++ typeName ++ "'"))
  | .notValidator written => "Not a query validator: " ++ written

def AccessFault.kindName : AccessFault → String
  | .missingKey _ => "KeyError"
  | .noAttribute _ _ => "AttributeError"
  | .pairLength _ _ => "ValueError"
  | _ => "TypeError"

namespace Value

/-- The items met in walking through a value: a text gives its characters, a mapping
its names. -/
def items : Value → Except AccessFault (List Value)
  | .text value => .ok (value.toList.map (fun letter => .text (String.singleton letter)))
  | .list items | .tuple items | .set items => .ok items
  | .map entries => .ok (entries.map (fun entry => .text entry.1))
  | value => .error (.notIterable value.typeName)

def length : Value → Except AccessFault Nat
  | .text value => .ok value.length
  | .list items | .tuple items | .set items => .ok items.length
  | .map entries => .ok entries.length
  | value => .error (.noLength value.typeName)

def textFor (member : String) : Value → Except AccessFault String
  | .text value => .ok value
  | value => .error (.noAttribute value.typeName member)

def subscript (name : String) : Value → Except AccessFault Value
  | .map entries =>
      match entries.lookup name with
      | some value => .ok value
      | none => .error (.missingKey name)
  | .text _ => .error (.badTextIndex "str")
  | .list _ => .error (.badIndex "list" "str")
  | .tuple _ => .error (.badIndex "tuple" "str")
  | value => .error (.notSubscriptable value.typeName)

/-- A field that may be missing, in which case the default stands for it. -/
def field (value : Value) (name : String) (default : Value) : Except AccessFault Value :=
  match value with
  | .map entries => .ok ((entries.lookup name).getD default)
  | value => .error (.noAttribute value.typeName "get")

def entries : Value → Except AccessFault (List (String × Value))
  | .map entries => .ok entries
  | value => .error (.noAttribute value.typeName "items")

mutual

/-- Members of a set and names of a row cannot be lists, sets, mappings or clauses, nor
can tuples and filters that hold one of these. -/
def hashable : Value → Except AccessFault Unit
  | .list _ => .error (.notHashable "list")
  | .set _ => .error (.notHashable "set")
  | .map _ => .error (.notHashable "dict")
  | .tuple items => hashableItems items
  | .filter tree => hashableFilter tree
  | .clause wording _ =>
      match hashable wording with
      | .ok () => .error (.notHashable "mappingproxy")
      | .error fault => .error fault
  | _ => .ok ()
termination_by structural value => value

def hashableItems : List Value → Except AccessFault Unit
  | [] => .ok ()
  | item :: items =>
      match hashable item with
      | .ok () => hashableItems items
      | .error fault => .error fault
termination_by structural items => items

/-- Labels have been members of a set before, and a bare filter has no fields. -/
def hashableFilter : Filter → Except AccessFault Unit
  | .compare _ _ value | .compareFolded _ _ value | .matching _ value => hashable value
  | .oneOf _ _ values => hashableItems values
  | .all first others | .any first others =>
      match hashableFilter first with
      | .ok () => hashableParts others
      | .error fault => .error fault
  | .negation part => hashableFilter part
  | .anyLabel _ _ | .bare _ _ => .ok ()
termination_by structural filter => filter

def hashableParts : List Filter → Except AccessFault Unit
  | [] => .ok ()
  | part :: parts =>
      match hashableFilter part with
      | .ok () => hashableParts parts
      | .error fault => .error fault
termination_by structural parts => parts

end

/-- The members of the set of some items; the first that cannot be a member is a fault. -/
def members (items : List Value) : Except AccessFault (List Value) :=
  (hashableItems items).map (fun _ => distinct items)

/-- An empty mapping stands for whatever is false. -/
def orEmpty (value : Value) : Value :=
  if value.truthy then value else .map []

end Value

end QueryWarden
