/-
Validation under a clock. Each chain is a timed operation: when it ends, whether its checks
passed or not, the time it took is logged. Leaves are not timed.
-/

import QueryWarden.Log.Timing
import QueryWarden.Validator.Basic

namespace QueryWarden

/-- A run, with all that has been logged by the end of it. -/
structure TimedRun where
  run : Run
  records : List Log.Record

namespace Validator

def chainLogName : String := "validation.chain"

def chainLogLevel : String := "trace"

def chainOperation (checks : Nat) : String :=
  "Validated query with " ++ toString checks ++ " checks"

/-- The end of a chain. The clock tells the time it took by how many records there are. -/
def ended (clock : Nat → String) (checks : Nat) (timed : TimedRun) : TimedRun :=
  let (logged, outcome) := Log.timed chainLogName chainLogLevel (chainOperation checks)
    (clock timed.records.length) timed.run.outcome
  { run := { timed.run with outcome := outcome }, records := timed.records ++ logged }

mutual

def runTimed (schema : Schema) (clock : Nat → String) :
    Validator → Submission → List Log.Record → TimedRun
  | .leaf check, submission, records =>
      { run := check.run schema submission.query, records := records }
  | .chain parts, submission, records =>
      ended clock parts.length (runTimedAll schema clock parts submission.query records)
termination_by structural validator => validator

def runTimedAll (schema : Schema) (clock : Nat → String) :
    List Validator → Query → List Log.Record → TimedRun
  | [], _, records => { run := .nothing, records := records }
  | part :: parts, query, records =>
      let first := runTimed schema clock part (.ready query) records
      match first.run.outcome with
      | .ok () =>
          let others := runTimedAll schema clock parts query first.records
          { run := first.run.next (fun _ => others.run), records := others.records }
      | .error _ => first
termination_by structural parts => parts

end

end Validator

end QueryWarden
