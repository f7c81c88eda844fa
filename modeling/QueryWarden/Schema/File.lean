/-
Schema files. The suffix of a file's name says how to read it and is looked at before
the file is; every way of breaking a line counts as a line feed.
-/

import QueryWarden.Format.Json
import QueryWarden.Format.Toml.Reader
import QueryWarden.Schema.Location
import QueryWarden.Schema.Reader

namespace QueryWarden.Schema

open Number

/-- Carriage returns, alone or before a line feed, become line feeds. -/
def unifyLines : List Char → List Char
  | [] => []
  | '\r' :: '\n' :: rest => '\n' :: unifyLines rest
  | '\r' :: rest => '\n' :: unifyLines rest
  | letter :: rest => letter :: unifyLines rest

inductive FileFormat where
  | json
  | toml
deriving DecidableEq

def FileFormat.ofSuffix? (suffix : String) : Option FileFormat :=
  if suffix = ".json" then some .json
  else if suffix = ".toml" then some .toml
  else none

def FileFormat.parse (format : FileFormat) (letters : List Char) : Except TextFlaw Value :=
  match format with
  | .json => Json.parse (String.ofList letters)
  | .toml => Toml.parse letters

/-- A malformed file is reported as such, an integer of too many digits as an integer,
and what goes too deep as that. -/
def faultOfFlaw : TextFlaw → Fault
  | .malformed => .schema .unreadable
  | .tooLong digits => .integer (.tooLong digits)
  | .tooDeep descent => .tooDeep descent

/-- What is read from a location, where a file may or may not be. A location with a null
character in it cannot be looked for. -/
def contentAt (location : String) (content : Option String) : Except Fault String :=
  if location.toList.contains '\x00' then .error .badLocation
  else
    match content with
    | some text => .ok text
    | none => .error .missingFile

def load (location : String) (content : Option String) : Except Fault Schema :=
  let suffix := Location.suffix location
  match FileFormat.ofSuffix? suffix with
  | none => .error (.schema (.fileKind suffix))
  | some format =>
      match contentAt location content with
      | .error fault => .error fault
      | .ok text =>
          match format.parse (unifyLines text.toList) with
          | .error flaw => .error (faultOfFlaw flaw)
          | .ok data => ofValue data

end QueryWarden.Schema
