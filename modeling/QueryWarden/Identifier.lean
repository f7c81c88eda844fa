/-
Identifiers: the only texts that are written into a query as they are. An
identifier is a letter or an underscore and then letters, digits and underscores,
all of them ASCII. One line break at the very end is let through.
-/

import QueryWarden.Text.Name

namespace QueryWarden

open Text

def isNameRest : List Char → Bool
  | [] => true
  | ['\n'] => true
  | letter :: rest => isNamePart letter && isNameRest rest

def isIdentifier : List Char → Bool
  | [] => false
  | letter :: rest => isNameStart letter && isNameRest rest

structure Identifier where
  name : String
  plain : isIdentifier name.toList = true
deriving DecidableEq

def Identifier.ofText? (name : String) : Option Identifier :=
  if plain : isIdentifier name.toList = true then some ⟨name, plain⟩ else none

theorem Identifier.ofText?_eq_some_iff (name : String) (identifier : Identifier) :
    Identifier.ofText? name = some identifier ↔ identifier.name = name := by
  unfold Identifier.ofText?
  constructor
  · intro found
    split at found
    · cases found; rfl
    · cases found
  · intro same
    subst same
    rw [dif_pos identifier.plain]

end QueryWarden
