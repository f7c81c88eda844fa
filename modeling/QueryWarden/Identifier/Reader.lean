/-
Identifiers from values. Only a text can be one; anything else, and a text that is
none, is refused with the role that it was meant for.
-/

import QueryWarden.Fault

namespace QueryWarden

namespace Identifier

def ofValue? : Value → Option Identifier
  | .text text => ofText? text
  | _ => none

def refused {α : Type} (role : String) (name : Value) : Except Fault α :=
  refuse name.written? (fun written => .filter (.badIdentifier role written))

/-- Reads an identifier from a value; the role says what it was to name. -/
def ofValue (role : String) (name : Value) : Except Fault Identifier :=
  match ofValue? name with
  | some identifier => .ok identifier
  | none => refused role name

theorem ofValue?_eq_some_iff (name : Value) (identifier : Identifier) :
    ofValue? name = some identifier ↔ name = .text identifier.name := by
  cases name with
  | text name =>
      rw [ofValue?, ofText?_eq_some_iff, Value.text.injEq, eq_comm]
  | _ => simp [ofValue?]

theorem ofValue_eq_ok_iff (role : String) (name : Value) (identifier : Identifier) :
    ofValue role name = .ok identifier ↔ name = .text identifier.name := by
  rw [← ofValue?_eq_some_iff, ofValue]
  cases ofValue? name with
  | some found => simp
  | none => simp [refused, refuse_ne_ok]

/-- What is no identifier is refused as a filter that is not valid, if it can be told of. -/
theorem kindName_of_ofValue {role : String} {name : Value} {fault : Fault}
    (failed : ofValue role name = .error fault) {written : String}
    (told : name.written? = some written) : fault.kindName = "InvalidFilterError" := by
  rw [ofValue] at failed
  split at failed
  · cases failed
  · rw [refused, told] at failed
    cases failed
    rfl

end Identifier

end QueryWarden
