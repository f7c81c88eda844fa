/-
Locations of files, as texts of names with slashes between them. In the normal form
no name is empty or a single point, and one slash stands at the front of a location
that starts at the root; exactly two slashes at the front are kept.
-/

import QueryWarden.Value.Text

namespace QueryWarden.Location

/-- The names between the slashes, empty ones included. -/
def split : List Char → List (List Char)
  | [] => [[]]
  | letter :: rest =>
      if letter = '/' then [] :: split rest
      else
        match split rest with
        | [] => [[letter]]
        | name :: names => (letter :: name) :: names

def names (location : String) : List String :=
  ((split location.toList).map String.ofList).filter (fun name => name != "" && name != ".")

def rootSlashes : List Char → String
  | '/' :: '/' :: '/' :: _ => "/"
  | '/' :: '/' :: _ => "//"
  | '/' :: _ => "/"
  | _ => ""

def normalize (location : String) : String :=
  let text := rootSlashes location.toList ++ separate "/" (names location)
  if text = "" then "." else text

/-- What follows the last point of a name, the point included. A point at either end of
the name does not count. -/
def suffixOfName (name : List Char) : List Char :=
  let ending := (name.reverse.takeWhile (· != '.')).reverse
  if ending.isEmpty ∨ name.length ≤ ending.length + 1 then [] else '.' :: ending

def suffix (location : String) : String :=
  match (names location).getLast? with
  | some name => String.ofList (suffixOfName name.toList)
  | none => ""

end QueryWarden.Location
