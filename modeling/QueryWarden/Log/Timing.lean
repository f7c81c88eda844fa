/-
Timed operations. When an operation ends, whether it failed or not, the time it took is
given to the logger's operation of the wanted name. What that refuses is a fault that
hides the operation's own.
-/

import QueryWarden.Log.Operation

namespace QueryWarden.Log

structure Record where
  name : String
  level : Level
  message : String

def defaultName : String := "cypherguard"

def defaultLevel : String := "debug"

/-- What is logged and what is left of the outcome, once the operation has ended. -/
def timed {α : Type} (name levelName operation elapsed : String) (outcome : Except Fault α) :
    List Record × Except Fault α :=
  let text := operation ++ ": " ++ elapsed ++ "ms"
  match reaction levelName text with
  | .logged level => ([{ name := name, level := level, message := text }], outcome)
  | .ignored => ([], outcome)
  | .refused fault => ([], .error fault)

end QueryWarden.Log
