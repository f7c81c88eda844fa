/-
Chains of validators. However chains stand in one another, a query meets the checks of all of
them as it would meet the flat list of these: from left to right, up to the first that fails,
whose fault is the fault of the whole. That the time of each chain is logged changes nothing.
-/

import QueryWarden.Validator.Timed

namespace QueryWarden

/-! ### One run after another -/

namespace Run

theorem next_nothing (first : Run) : first.next (fun _ => nothing) = first := by
  cases passed : first.outcome with
  | ok done =>
      rw [next_of_ok _ passed]
      simp only [nothing, List.append_nil]
      rw [← passed]
  | error fault => exact next_of_error _ passed

private theorem next_assoc (first : Run) (second third : Unit → Run) :
    (first.next second).next third = first.next (fun _ => (second ()).next third) := by
  cases passed : first.outcome with
  | error fault => rw [next_of_error _ passed, next_of_error _ passed, next_of_error _ passed]
  | ok done =>
      rw [next_of_ok _ passed, next_of_ok _ passed]
      cases again : (second ()).outcome with
      | ok done =>
          rw [next_of_ok _ rfl, next_of_ok _ again]
          simp only [List.append_assoc]
      | error fault =>
          rw [next_of_error _ rfl, next_of_error _ again]
          simp only [again]

end Run

/-! ### Flat lists of checks -/

namespace Check

def runEach (schema : Schema) (query : Query) : List Check → Run
  | [] => .nothing
  | check :: checks => (check.run schema query).next (fun _ => runEach schema query checks)

theorem runEach_append (schema : Schema) (query : Query) (checks others : List Check) :
    runEach schema query (checks ++ others) =
      (runEach schema query checks).next (fun _ => runEach schema query others) := by
  induction checks with
  | nil => rfl
  | cons check checks ih =>
      rw [List.cons_append, runEach, runEach, Run.next_assoc]
      simp only [ih]

end Check

namespace Validator

/-! ### Chains in chains -/

mutual

theorem run_eq_runEach (schema : Schema) (validator : Validator) (submission : Submission) :
    run schema validator submission =
      Check.runEach schema submission.query validator.leaves := by
  match validator with
  | .leaf check => exact (Run.next_nothing _).symm
  | .chain parts => exact runAll_eq_runEach schema parts submission.query
termination_by structural validator

private theorem runAll_eq_runEach (schema : Schema) (parts : List Validator) (query : Query) :
    runAll schema parts query = Check.runEach schema query (leavesOf parts) := by
  match parts with
  | [] => rfl
  | part :: parts =>
      rw [runAll, leavesOf, Check.runEach_append, run_eq_runEach schema part (.ready query),
        runAll_eq_runEach schema parts query]
      rfl
termination_by structural parts

end

private theorem reaction_chainLogLevel (text : String) :
    Log.reaction chainLogLevel text = .logged .trace := by
  rfl

private theorem ended_run (clock : Nat → String) (checks : Nat) (timed : TimedRun) :
    (ended clock checks timed).run = timed.run := by
  rw [ended, Log.timed]
  simp only [reaction_chainLogLevel]

mutual

/-- Whatever the clock tells and whatever was logged before, the run is the same. -/
theorem runTimed_run (schema : Schema) (clock : Nat → String) (validator : Validator)
    (submission : Submission) (records : List Log.Record) :
    (runTimed schema clock validator submission records).run =
      run schema validator submission := by
  match validator with
  | .leaf check => rfl
  | .chain parts =>
      rw [runTimed, ended_run]
      exact runTimedAll_run schema clock parts submission.query records
termination_by structural validator

private theorem runTimedAll_run (schema : Schema) (clock : Nat → String) (parts : List Validator)
    (query : Query) (records : List Log.Record) :
    (runTimedAll schema clock parts query records).run = runAll schema parts query := by
  match parts with
  | [] => rfl
  | part :: parts =>
      rw [runTimedAll, runAll, ← runTimed_run schema clock part (.ready query) records]
      cases passed : (runTimed schema clock part (.ready query) records).run.outcome with
      | ok done =>
          simp only
          rw [runTimedAll_run schema clock parts query _]
      | error fault => exact (Run.next_of_error _ passed).symm
termination_by structural parts

end

end Validator

/-! ### Verdicts -/

namespace Verdict

end Verdict

namespace Validator

end Validator

end QueryWarden
