/-
Attempts: computations that may send requests to a graph and may fail. The requests
that were sent are kept in order, whether the attempt succeeds or not.
-/

import QueryWarden.Bindings
import QueryWarden.Graph.Result

namespace QueryWarden

structure Request where
  query : String
  parameters : Option Bindings

/-- A graph answers each request with a result or a fault. -/
abbrev Graph := Request → Except Fault QueryResult

structure Attempt (α : Type) where
  sent : List Request
  result : Except Fault α

namespace Attempt

def pure {α : Type} (value : α) : Attempt α :=
  { sent := [], result := .ok value }

/-- Goes on with the value of a successful attempt; a failed one ends here. -/
def bind {α β : Type} (first : Attempt α) (next : α → Attempt β) : Attempt β :=
  match first.result with
  | .ok value =>
      let second := next value
      { sent := first.sent ++ second.sent, result := second.result }
  | .error fault => { sent := first.sent, result := .error fault }

instance : Monad Attempt where
  pure := Attempt.pure
  bind := Attempt.bind

def of {α : Type} (result : Except Fault α) : Attempt α :=
  { sent := [], result := result }

def send (graph : Graph) (request : Request) : Attempt QueryResult :=
  { sent := [request], result := graph request }

theorem bind_of_ok {α β : Type} {first : Attempt α} {value : α} (next : α → Attempt β)
    (succeeded : first.result = .ok value) :
    first >>= next =
      { sent := first.sent ++ (next value).sent, result := (next value).result } := by
  change bind first next = _
  rw [bind, succeeded]

theorem bind_of_error {α β : Type} {first : Attempt α} {fault : Fault} (next : α → Attempt β)
    (failed : first.result = .error fault) :
    first >>= next = { sent := first.sent, result := .error fault } := by
  change bind first next = _
  rw [bind, failed]

end Attempt

/-- What comes of a tool, and the requests it sent. The tool answers with a text, unless what
it has to tell cannot be written; that is a fault of the tool. -/
structure Reply where
  outcome : Except Fault String
  sent : List Request

def Attempt.reply {α : Type} (attempt : Attempt α) (success : α → Option String)
    (failure : Fault → Option String) : Reply :=
  { outcome := writing (match attempt.result with
      | .ok value => success value
      | .error fault => failure fault)
    sent := attempt.sent }

end QueryWarden
