/-
Building chains. A chain is given its parts one by one, or all of them in one value
that can be walked through. Whatever is not a validator is refused when the chain is
built, not when it is used.
-/

import QueryWarden.Validator.Basic

namespace QueryWarden

inductive Candidate where
  | fit (validator : Validator)
  | other (value : Value)

namespace Candidate

def accept : Candidate → Except Fault Validator
  | .fit validator => .ok validator
  | .other value => refuse value.written? (fun written => .access (.notValidator written))

/-- A single value is unpacked if it can be walked through. -/
def unpack : List Candidate → List Candidate
  | [.other value] =>
      match value.items with
      | .ok items => items.map .other
      | .error _ => [.other value]
  | candidates => candidates

/-- A validator to be used alone. A value has nothing to validate with, which shows when
it is first used. -/
def use : Candidate → Validator
  | .fit validator => validator
  | .other value =>
      .leaf (.custom value.typeName (fun _ _ =>
        .error (.access (.noAttribute value.typeName "validate"))))

def isValidator : Candidate → Bool
  | .fit _ => true
  | .other _ => false

def written? : Candidate → Option String
  | .fit validator => validator.written?
  | .other value => value.written?

/-- Whether a candidate is false. A validator never is, not even a chain without parts. -/
def isFalse : Candidate → Bool
  | .fit _ => false
  | .other value => !value.truthy

/-- What validates for a candidate; the standard chain stands for one that is false. -/
def orStandard (candidate : Candidate) : Validator :=
  if candidate.isFalse then .standard (.bool true) else candidate.use

end Candidate

/-- The two ways to ask about a query: for a refusal as a fault or as a verdict. -/
inductive Question where
  | validate
  | check
deriving DecidableEq

def Question.name : Question → String
  | .validate => "validate"
  | .check => "check"

/-- What a candidate lacks to be asked. Only chains give verdicts, and a value can be
asked nothing at all. -/
def Candidate.lacks? (candidate : Candidate) (question : Question) : Option AccessFault :=
  match candidate, question with
  | .other value, question => some (.noAttribute value.typeName question.name)
  | .fit (.leaf check), .check => some (.noAttribute check.className "check")
  | .fit _, _ => none

namespace Validator

def ofList (candidates : List Candidate) : Except Fault Validator :=
  (candidates.mapM Candidate.accept).map .chain

def ofParts (candidates : List Candidate) : Except Fault Validator :=
  ofList (Candidate.unpack candidates)

end Validator

end QueryWarden
