/-
Settings: names for compiled filters, the strictness of the schema check, where the
schema is and how many rows are let through. Each setting is taken from what was given
explicitly or else from the environment, and has a default.
-/

import QueryWarden.Filter.Compile
import QueryWarden.Schema.File
import QueryWarden.Validator.Basic
import QueryWarden.Value.Integer

namespace QueryWarden

open Text

structure Settings where
  node : Value
  stem : Value
  strictness : Value
  location : Option String
  maximum : Value

namespace Settings

/-- Settings of the environment, without the part that their names share. -/
abbrev Environment := List (String × String)

def setting (environment : Environment) (name default : String) : String :=
  (environment.lookup name).getD default

def trueWords : List String :=
  ["true", "1", "yes"]

def strictnessOf (environment : Environment) : Bool :=
  match environment.lookup "STRICT_SCHEMA" with
  | some word => trueWords.contains (lowerText word)
  | none => true

/-- An empty location is none. -/
def locationOf (environment : Environment) : Option String :=
  let location := setting environment "SCHEMA_PATH" ""
  if location = "" then none else some (Location.normalize location)

def givenLocation : Value → Except Fault (Option String)
  | .null => .ok none
  | .text location => .ok (some (Location.normalize location))
  | value => (writing value.shown?).map some

def maximumOf (environment : Environment) (given : Bindings) : Except Fault Value :=
  match given.lookup "max_results" with
  | some value => .ok value
  | none =>
      match (Value.text (setting environment "MAX_RESULTS" "100")).toInteger with
      | .ok maximum => .ok (.int maximum)
      | .error fault => .error (.integer fault)

def names : List String :=
  ["node_alias", "param_prefix", "strict_schema", "schema_path", "max_results"]

/-- The first name that is no setting is refused, and so is the name by which the
settings themselves are given. -/
def checkNames (given : Bindings) : Except CallFault Unit :=
  match (Bindings.names given).find? (fun name => !names.contains name) with
  | some "self" => .error (.namedTwice "Config.__init__" "self")
  | some name => .error (.unexpected "Config.__init__" name)
  | none => .ok ()

/-- All settings are logged when they are made, so each needs a text. -/
def checkShown (settings : Settings) : Except Fault Unit :=
  [settings.node, settings.stem, settings.strictness, settings.maximum].forM
    (fun value => discard (writing value.shown?))

/-- What is given explicitly wins over the environment. Names that are no settings are
refused first; the limit is checked once the others are there. -/
def ofSources (environment : Environment) (given : Bindings) : Except Fault Settings := do
  (checkNames given).mapError .call
  let maximum ← maximumOf environment given
  checkResultLimit maximum
  let location ← match given.lookup "schema_path" with
    | some value => givenLocation value
    | none => .ok (locationOf environment)
  let settings : Settings := {
    node := (given.lookup "node_alias").getD (.text (setting environment "NODE_ALIAS" defaultAlias))
    stem := (given.lookup "param_prefix").getD
      (.text (setting environment "PARAM_PREFIX" defaultStem))
    strictness := (given.lookup "strict_schema").getD (.bool (strictnessOf environment))
    location := location
    maximum := maximum }
  checkShown settings
  return settings

def compiler (settings : Settings) : Except Fault Compiler :=
  Compiler.ofValues settings.node settings.stem

def validator (settings : Settings) : Validator :=
  .standard settings.strictness

/-- The schema at the settings' location, or the empty one where there is none. -/
def schema (settings : Settings) (content : String → Option String) : Except Fault Schema :=
  match settings.location with
  | none => .ok .empty
  | some location => Schema.load location (content location)

end Settings

end QueryWarden
