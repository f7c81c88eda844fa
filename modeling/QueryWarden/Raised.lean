/-
Faults that others raise, by the name of their kind and their arguments. The kinds of
refusal are recognised and built from their arguments; any other fault is kept as it
was raised. Building a refusal can itself be a fault.
-/

import QueryWarden.Fault

namespace QueryWarden

/-- Items as texts; the first that is none, with its place, is a fault. -/
def textsOf : (place : Nat) → List Value → Except AccessFault (List String)
  | _, [] => .ok []
  | place, .text text :: items => (textsOf (place + 1) items).map (text :: ·)
  | place, item :: _ => .error (.notText place item.typeName)

namespace Rejection

/-- A write operation; a reason that is false gives way to the usual one. -/
def ofWrite (keyword reason : Value) : Except Fault Rejection :=
  if reason.truthy then .ok (.mutation keyword reason)
  else (writing keyword.shown?).map (fun shown => .mutation keyword (.text (writeWording shown)))

/-- An unreadable query; what is allowed instead has to be a sequence of texts. -/
def ofUnreadable (firstToken allowed : Value) : Except Fault Rejection := do
  let texts ← accessing (allowed.items >>= textsOf 0)
  let shown ← writing firstToken.shown?
  return .unreadable firstToken texts (unreadableWording shown texts)

/-- Undeclared names. The unknown and the known ones are kept sorted, and the wording
sorts them anew, which matters only where they have no order among themselves. -/
def ofUndeclared (kind unknown known : Value) : Except Fault Rejection := do
  let unknown ← accessing (unknown.items >>= Value.sort)
  let known ← accessing (known.items >>= Value.sort)
  let unknownText ← written unknown
  let knownText ← written known
  return .undeclared kind unknown known (undeclaredWording kind unknownText knownText)
where
  written (names : List Value) : Except Fault String := do
    writing (Value.list (← accessing (Value.sort names))).written?

end Rejection

/-- What the kinds of refusal are built from. All other kinds take any arguments. -/
def refusalSignature? : (kindName : String) → Option Signature
  | "QueryValidationError" => some (.maker "QueryValidationError" ["reason"])
  | "MutationRejectedError" =>
      some ((Signature.maker "MutationRejectedError" ["keyword"]).withOptional 1)
  | "UnreadableQueryError" =>
      some (.maker "UnreadableQueryError" ["first_token", "allowed"])
  | "SchemaViolationError" =>
      some (.maker "SchemaViolationError" ["kind", "unknown", "known"])
  | _ => none

def checkRefusal (kindName : String) (given : Nat) : Except Fault Unit :=
  match refusalSignature? kindName with
  | some signature => checkArguments signature given
  | none => .ok ()

def Fault.build (kindName : String) (arguments : List Value) : Except Fault Fault :=
  match kindName, arguments with
  | "QueryValidationError", [reason] => .ok (.rejected (.general reason))
  | "MutationRejectedError", [keyword] => (Rejection.ofWrite keyword .null).map .rejected
  | "MutationRejectedError", [keyword, reason] => (Rejection.ofWrite keyword reason).map .rejected
  | "UnreadableQueryError", [firstToken, allowed] =>
      (Rejection.ofUnreadable firstToken allowed).map .rejected
  | "SchemaViolationError", [kind, unknown, known] =>
      (Rejection.ofUndeclared kind unknown known).map .rejected
  | kindName, arguments => .ok (.raised kindName arguments)

/-- A fault from its kind and its arguments; the outer result tells of a fault met in
building it. -/
def Fault.ofRaised (kindName : String) (arguments : List Value) : Except Fault Fault := do
  checkRefusal kindName arguments.length
  Fault.build kindName arguments

/-- The fault that raising one leads to, be it the one meant or one met in building it. -/
def Fault.raise (kindName : String) (arguments : List Value) : Fault :=
  match Fault.ofRaised kindName arguments with
  | .ok fault => fault
  | .error fault => fault

end QueryWarden
