/-
Everything that can go wrong, by its cause. A fault has the name of its kind and,
with few exceptions, a message; all wording is here and nowhere else. Faults that
the library does not raise itself, but passes on, are kept as they were raised. Where a
fault tells of a value, it holds the text of it, and a value that has no text leads to
another fault.
-/

import QueryWarden.Number.Reading
import QueryWarden.Signature
import QueryWarden.Text.Case
import QueryWarden.Value.Sort

namespace QueryWarden

open Text

/-! ### Filters -/

inductive FilterFault where
  | badIdentifier (role written : String)
  | noLabels
  | noParts (className : String)
  | partNotFilter (className typeName : String)
  | negatedNotFilter (typeName : String)
  | badNode (written : String)
  | unknownOperator (operator : String)
  | listExpected (operator typeName : String)
  | malformed (operator : String) (fault : AccessFault)
  | boundTwice (parameter : String)
  | blankConstraint

def identifierForm : String :=
  "^[A-Za-z_][A-Za-z0-9_]*$"

def FilterFault.message : FilterFault → String
  | .badIdentifier role written =>
      "Invalid " ++ role ++ " " ++ written ++ ": must match " ++ identifierForm
  | .noLabels => "HasAnyLabel requires at least one label"
  | .noParts className => className ++ " requires at least one filter"
  | .partNotFilter className typeName =>
      className ++ " children must be filters, got " ++ typeName
  | .negatedNotFilter typeName => "Not requires a filter, got " ++ typeName
  | .badNode written => "Filter node must be a single-key object, got " ++ written
  | .unknownOperator operator => "Unknown filter operator '" ++ operator ++ "'"
  | .listExpected operator typeName => "'" ++ operator ++ "' expects a list, got " ++ typeName
  | .malformed operator fault =>
      "Malformed '" ++ operator ++ "' filter: " ++ fault.message
  | .boundTwice parameter =>
      "Parameter '" ++ parameter ++ "' is already bound to a different value"
  | .blankConstraint => "Narrowing constraint must not be blank"

/-! ### Schemas -/

/-- A step on the way to a field: its name, or a place in a sequence. -/
inductive Step where
  | field (name : String)
  | place (index : Nat)
deriving DecidableEq

inductive ProblemKind where
  | notText
  | missing
  | notTuple
  | notSet
  | notRecord (record : String)
deriving DecidableEq

structure Problem where
  path : List Step
  kind : ProblemKind
deriving DecidableEq

def Problem.under (step : Step) (problem : Problem) : Problem :=
  { problem with path := step :: problem.path }

def ProblemKind.name : ProblemKind → String
  | .notText => "string_type"
  | .missing => "missing"
  | .notTuple => "tuple_type"
  | .notSet => "frozen_set_type"
  | .notRecord _ => "model_type"

def ProblemKind.message : ProblemKind → String
  | .notText => "Input should be a valid string"
  | .missing => "Field required"
  | .notTuple => "Input should be a valid tuple"
  | .notSet => "Input should be a valid frozenset"
  | .notRecord record => "Input should be a valid dictionary or instance of " ++ record

inductive SchemaFault where
  | unknownParent (label parent : String)
  | cycle (walk : List String)
  | unknownEndpoint (relationship : String) (endpoint : String)
  | invalid (problems : List Problem)
  | fileKind (suffix : String)
  | unreadable

def SchemaFault.message : SchemaFault → String
  | .unknownParent label parent =>
      "Node type '" ++ label ++ "' extends unknown type '" ++ parent ++ "'"
  | .cycle walk => "Inheritance cycle in schema: " ++ separate " -> " walk
  | .unknownEndpoint relationship endpoint =>
      "Relationship '" ++ relationship ++ "' references unknown type '" ++ endpoint ++ "'"
  | .invalid _ => "Invalid schema definition"
  | .fileKind suffix => "Unsupported schema file type: " ++ suffix
  | .unreadable => "Could not parse schema file"

/-! ### Queries -/

/-- Why a query was not let through. Refusals of unreadable queries and of undeclared names
keep the wording they were made with, and one of a kind derived elsewhere the names that it
was given. -/
inductive Rejection where
  | general (reason : Value)
  | unknownLabel (label : String) (known : List String)
  | mutation (keyword : Value) (reason : Value)
  | unreadable (firstToken : Value) (allowed : List String) (wording : String)
  | undeclared (kind : Value) (unknown known : List Value) (wording : String)
  | derived (kindName validatorName : String) (reason : Value)

def writeWording (keyword : String) : String :=
  "Write operations are not allowed. Found: " ++ keyword

def Rejection.ofKeyword (keyword : String) : Rejection :=
  .mutation (.text keyword) (.text (writeWording keyword))

def Rejection.ofProcedure (procedure : String) : Rejection :=
  .mutation (.text procedure)
    (.text ("Write procedures are not allowed. Found: " ++ lowerText procedure))

def unreadableWording (firstToken : String) (allowed : List String) : String :=
  "Query must start with a valid read operation (" ++ separate ", " allowed ++ "). Found: '" ++
    firstToken ++ "'"

def Rejection.ofToken (firstToken : String) (allowed : List String) : Rejection :=
  .unreadable (.text firstToken) allowed (unreadableWording firstToken allowed)

/-- The wording that strict refusals and lenient warnings share, from lists of names in
written form. -/
def undeclaredWording (kind : Value) (unknown known : String) : String :=
  let noun := if kind.same (.text "entity") then "entity types" else "relationship types"
  "Query uses " ++ noun ++ " not in schema: " ++ unknown ++ ". Available types: " ++ known

def Rejection.reason : Rejection → Value
  | .general reason => reason
  | .unknownLabel label known =>
      .text ("Unknown label '" ++ label ++ "'. Available types: " ++ writtenTexts known)
  | .mutation _ reason => reason
  | .unreadable _ _ wording => .text wording
  | .undeclared _ _ _ wording => .text wording
  | .derived _ _ reason => reason

def Rejection.validatorName : Rejection → String
  | .general _ | .unknownLabel _ _ => "query"
  | .mutation _ _ | .unreadable _ _ _ => "no_mutation"
  | .undeclared _ _ _ _ => "schema_adherence"
  | .derived _ validatorName _ => validatorName

def Rejection.kindName : Rejection → String
  | .general _ | .unknownLabel _ _ => "QueryValidationError"
  | .mutation _ _ => "MutationRejectedError"
  | .unreadable _ _ _ => "UnreadableQueryError"
  | .undeclared _ _ _ _ => "SchemaViolationError"
  | .derived kindName _ _ => kindName

/-! ### Integers -/

inductive IntegerFault where
  | notDigits (text : String)
  | tooLong (digits : Nat)
  | unwritable
  | notNumeric (typeName : String)
  | nan
  | infinite

/-- The text in quotes, of which only the first letters are shown. -/
def quoteStart (text : String) : String :=
  String.ofList ((quoteText text).toList.take 200)

/-- What is said of integers with more digits than are converted. -/
def digitLimitText : String :=
  "Exceeds the limit (" ++ toString Number.longestInteger ++
    " digits) for integer string conversion"

def digitLimitAdvice : String :=
  "; use sys.set_int_max_str_digits() to increase the limit"

def IntegerFault.message : IntegerFault → String
  | .notDigits text => "invalid literal for int() with base 10: " ++ quoteStart text
  | .tooLong digits =>
      digitLimitText ++ ": value has " ++ toString digits ++ " digits" ++ digitLimitAdvice
  | .unwritable => digitLimitText ++ digitLimitAdvice
  | .notNumeric typeName =>
      "int() argument must be a string, a bytes-like object or a real number, not '" ++
        typeName ++ "'"
  | .nan => "cannot convert float NaN to integer"
  | .infinite => "cannot convert float infinity to integer"

def IntegerFault.kindName : IntegerFault → String
  | .notDigits _ | .tooLong _ | .unwritable | .nan => "ValueError"
  | .notNumeric _ => "TypeError"
  | .infinite => "OverflowError"

/-! ### Depth -/

def Descent.message : Descent → String
  | .jsonArray => "maximum recursion depth exceeded while decoding a JSON array from a unicode string"
  | .jsonObject =>
      "maximum recursion depth exceeded while decoding a JSON object from a unicode string"
  | .tomlValue => "maximum recursion depth exceeded"

/-! ### All faults -/

inductive Fault where
  | access (fault : AccessFault)
  | call (fault : CallFault)
  | integer (fault : IntegerFault)
  | filter (fault : FilterFault)
  | unsupported (className : String)
  | schema (fault : SchemaFault)
  | records (problems : List Problem)
  | rejected (rejection : Rejection)
  | resultLimit (limit : String)
  | countShape (rows : Nat)
  | missingFile
  | badLocation
  | tooDeep (descent : Descent)
  | unknownLevel (level : String)
  | raised (kindName : String) (arguments : List Value)

instance : Inhabited Fault := ⟨.missingFile⟩

/-- No argument gives the empty text, one is shown, several are written as a tuple. A
missing key alone is written and not shown. -/
def raisedMessage? (kindName : String) : List Value → Option String
  | [] => some ""
  | [only] => if kindName = "KeyError" then only.written? else only.shown?
  | arguments => (Value.tuple arguments).written?

/-- There is none for some faults, and none for those that hold a value without a text. -/
def Fault.message : Fault → Option String
  | .access fault => some fault.message
  | .call fault => some fault.message
  | .integer fault => some fault.message
  | .filter fault => some fault.message
  | .unsupported className =>
      some ("Unsupported filter type " ++ className ++ "; refusing to drop the predicate")
  | .schema fault => some fault.message
  | .records _ => none
  | .rejected rejection => rejection.reason.shown?
  | .resultLimit limit => some ("max_results must be >= 1, got " ++ limit)
  | .countShape rows =>
      some ("Expected exactly one numeric result, got " ++ toString rows ++ " row(s)")
  | .missingFile => none
  | .badLocation => some "embedded null byte"
  | .tooDeep descent => some descent.message
  | .unknownLevel level => some ("'Logger' object has no attribute '" ++ level ++ "'")
  | .raised kindName arguments => raisedMessage? kindName arguments

def Fault.kindName : Fault → String
  | .access fault => fault.kindName
  | .call _ => "TypeError"
  | .integer fault => fault.kindName
  | .filter _ => "InvalidFilterError"
  | .unsupported _ => "FilterCompilationError"
  | .schema _ => "SchemaDefinitionError"
  | .records _ => "ValidationError"
  | .rejected rejection => rejection.kindName
  | .resultLimit _ => "ValueError"
  | .countShape _ => "CypherGuardError"
  | .missingFile => "FileNotFoundError"
  | .badLocation => "ValueError"
  | .tooDeep _ => "RecursionError"
  | .unknownLevel _ => "AttributeError"
  | .raised kindName _ => kindName

/-- The text of a fault, empty where the fault has no message. -/
def Fault.text? : Fault → Option String
  | .records _ | .missingFile => some ""
  | fault => fault.message

/-- A fault whose text is empty goes by the name of its kind. -/
def Fault.textOrKind? (fault : Fault) : Option String :=
  fault.text?.map (fun text => if text = "" then fault.kindName else text)

/-! ### Texts that are needed -/

/-- The text of a value, where there is one. -/
def writing {α : Type} : Option α → Except Fault α
  | some written => .ok written
  | none => .error (.integer .unwritable)

/-- A refusal that tells of a value, by its text. -/
def refuse {α : Type} (text : Option String) (fault : String → Fault) : Except Fault α :=
  writing text >>= fun text => .error (fault text)

theorem writing_eq_ok_iff {α : Type} {text : Option α} {written : α} :
    writing text = .ok written ↔ text = some written := by
  cases text with
  | none => simp [writing]
  | some found => simp [writing]

theorem refuse_ne_ok {α : Type} (text : Option String) (fault : String → Fault) (value : α) :
    refuse text fault ≠ .ok value := by
  cases text with
  | none => exact nofun
  | some shown => exact nofun

def checkArguments (signature : Signature) (given : Nat) : Except Fault Unit :=
  (signature.check given).mapError .call

def accessing {α : Type} (result : Except AccessFault α) : Except Fault α :=
  result.mapError .access

end QueryWarden
