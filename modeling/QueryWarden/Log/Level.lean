/-
Levels of log records and the rules that let records through. A component that is
named in a record's name may have a level of its own; a level that is not known is
passed over, and if the general level is not known, every record goes through.
-/

import QueryWarden.Text.Search

namespace QueryWarden.Log

open QueryWarden.Text

inductive Level where
  | trace
  | debug
  | info
  | success
  | warning
  | error
  | critical
deriving DecidableEq

def Level.number : Level → Nat
  | .trace => 5
  | .debug => 10
  | .info => 20
  | .success => 25
  | .warning => 30
  | .error => 40
  | .critical => 50

def Level.name : Level → String
  | .trace => "TRACE"
  | .debug => "DEBUG"
  | .info => "INFO"
  | .success => "SUCCESS"
  | .warning => "WARNING"
  | .error => "ERROR"
  | .critical => "CRITICAL"

def levels : List Level :=
  [.trace, .debug, .info, .success, .warning, .error, .critical]

def Level.ofName? (name : String) : Option Level :=
  levels.find? (fun level => level.name == name)

theorem Level.ofName?_name (level : Level) : Level.ofName? level.name = some level := by
  cases level <;> decide

structure Rules where
  general : String
  components : List (String × String)

/-- The first known level among those of the components that the name speaks of. -/
def componentLevel? (name : String) : List (String × String) → Option Level
  | [] => none
  | (component, levelName) :: rest =>
      if occurs component.toList name.toList then
        match Level.ofName? levelName with
        | some level => some level
        | none => componentLevel? name rest
      else componentLevel? name rest

/-- The level that a record of the given name has to reach, if there is one. -/
def Rules.threshold? (rules : Rules) (name : String) : Option Level :=
  match componentLevel? name rules.components with
  | some level => some level
  | none => Level.ofName? rules.general

def Rules.admits (rules : Rules) (name : String) (level : Level) : Bool :=
  match rules.threshold? name with
  | some threshold => threshold.number ≤ level.number
  | none => true

end QueryWarden.Log
