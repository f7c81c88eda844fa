/-
Signatures: the parameters of an operation whose arguments are given by position. An
operation is refused, before it begins, when it is given too few arguments or too
many. An operation of an object counts the object itself among its arguments.
-/

import QueryWarden.Value.Text

namespace QueryWarden

inductive CallFault where
  | missing (operation : String) (parameters : List String)
  | excess (operation : String) (least most given : Nat)
  | noArguments (operation : String)
  | notExact (operation : String) (expected given : Nat)
  | notCounted (operation : String) (expected given : Nat)
  | unexpected (operation : String) (parameter : String)
  | namedTwice (operation : String) (parameter : String)
deriving DecidableEq

/-- Names in an enumeration: a comma stands before the last of three or more. -/
def enumerateNames : List String → String
  | [] => ""
  | [only] => only
  | [first, second] => first ++ " and " ++ second
  | names => separate ", " names.dropLast ++ ", and " ++ names.getLast?.getD ""

def pluralEnding (count : Nat) : String :=
  if count = 1 then "" else "s"

def argumentRange (least most : Nat) : String :=
  if least = most then toString most ++ " positional argument" ++ pluralEnding most
  else "from " ++ toString least ++ " to " ++ toString most ++ " positional arguments"

def exactCount : Nat → String
  | 0 => "no arguments"
  | 1 => "exactly one argument"
  | count => "exactly " ++ toString count ++ " arguments"

def CallFault.message : CallFault → String
  | .missing operation parameters =>
      operation ++ "() missing " ++ toString parameters.length ++
        " required positional argument" ++ pluralEnding parameters.length ++ ": " ++
        enumerateNames (parameters.map (fun name => "'" ++ name ++ "'"))
  | .excess operation least most given =>
      operation ++ "() takes " ++ argumentRange least most ++ " but " ++ toString given ++
        (if given = 1 then " was" else " were") ++ " given"
  | .noArguments operation => operation ++ "() takes no arguments"
  | .notExact operation expected given =>
      operation ++ "() takes " ++ exactCount expected ++ " (" ++ toString given ++ " given)"
  | .notCounted operation expected given =>
      operation ++ " expected " ++ toString expected ++ " argument" ++ pluralEnding expected ++
        ", got " ++ toString given
  | .unexpected operation parameter =>
      operation ++ "() got an unexpected keyword argument '" ++ parameter ++ "'"
  | .namedTwice operation parameter =>
      operation ++ "() got multiple values for argument '" ++ parameter ++ "'"

/-- Accepts one number of arguments and refuses any other in the given way. -/
def acceptExactly (expected : Nat) (fault : (expected given : Nat) → CallFault) (given : Nat) :
    Except CallFault Unit :=
  if given = expected then .ok () else .error (fault expected given)

/-- What an operation takes by position: parameters that have to be given, then a number
of others that may be, and then perhaps any number of arguments more. -/
structure Signature where
  operation : String
  required : List String
  optional : Nat
  openEnded : Bool
  ofObject : Bool

namespace Signature

/-- An operation of its own, all of whose parameters have to be given. -/
def plain (operation : String) (required : List String) : Signature :=
  { operation := operation, required := required, optional := 0, openEnded := false
    ofObject := false }

def method (operation : String) (required : List String) : Signature :=
  { plain operation required with ofObject := true }

def maker (className : String) (required : List String) : Signature :=
  method (className ++ ".__init__") required

def withOptional (signature : Signature) (count : Nat) : Signature :=
  { signature with optional := count }

def andMore (signature : Signature) : Signature :=
  { signature with openEnded := true }

def check (signature : Signature) (given : Nat) : Except CallFault Unit :=
  let itself := if signature.ofObject then 1 else 0
  let least := signature.required.length
  let most := least + signature.optional
  if given < least then
    .error (.missing signature.operation (signature.required.drop given))
  else if most < given ∧ signature.openEnded = false then
    .error (.excess signature.operation (itself + least) (itself + most) (itself + given))
  else .ok ()

/-- An operation accepts a number of arguments exactly if it is not too small and, where
there is a bound, not too large. -/
theorem check_eq_ok_iff (signature : Signature) (given : Nat) :
    signature.check given = .ok () ↔
      signature.required.length ≤ given ∧
        (signature.openEnded = true ∨
          given ≤ signature.required.length + signature.optional) := by
  unfold check
  by_cases few : given < signature.required.length
  · simp only [few, if_true]
    constructor
    · intro impossible; cases impossible
    · intro accepted; omega
  · simp only [few, if_false]
    by_cases many : signature.required.length + signature.optional < given ∧
        signature.openEnded = false
    · rw [if_pos many]
      constructor
      · intro impossible; cases impossible
      · intro accepted
        rcases accepted.2 with isOpen | bounded
        · rw [many.2] at isOpen; cases isOpen
        · omega
    · rw [if_neg many]
      refine ⟨fun _ => ⟨by omega, ?_⟩, fun _ => rfl⟩
      cases isOpen : signature.openEnded with
      | true => exact Or.inl rfl
      | false =>
          exact Or.inr (Nat.le_of_not_lt fun beyond => many ⟨beyond, isOpen⟩)

end Signature

end QueryWarden
