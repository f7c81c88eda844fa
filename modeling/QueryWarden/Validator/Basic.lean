/-
Validators of queries. A check is a single test; a chain asks its parts in order and
stops at the first refusal. A run keeps which checks were asked, with the query that
each of them was given, so that it can be compared with the list of all checks.
-/

import QueryWarden.Query.Mutation
import QueryWarden.Validator.Adherence

namespace QueryWarden

/-- A test of a query. The strictness of the schema check is any value, of which only
the truth counts. -/
inductive Check where
  | readOnly
  | adherence (strictness : Value)
  | custom (name : String) (judge : Query → Schema → Except Fault Unit)

inductive Validator where
  | leaf (check : Check)
  | chain (parts : List Validator)

structure Call where
  check : Check
  query : Query

structure Run where
  calls : List Call
  warnings : List String
  outcome : Except Fault Unit

namespace Run

def nothing : Run :=
  { calls := [], warnings := [], outcome := .ok () }

/-- Goes on after a success; after a failure nothing more is asked. -/
def next (first : Run) (more : Unit → Run) : Run :=
  match first.outcome with
  | .ok () =>
      let second := more ()
      { calls := first.calls ++ second.calls
        warnings := first.warnings ++ second.warnings
        outcome := second.outcome }
  | .error _ => first

theorem next_of_ok {first : Run} (more : Unit → Run) (passed : first.outcome = .ok ()) :
    first.next more =
      { calls := first.calls ++ (more ()).calls
        warnings := first.warnings ++ (more ()).warnings
        outcome := (more ()).outcome } := by
  rw [next, passed]

theorem next_of_error {first : Run} {fault : Fault} (more : Unit → Run)
    (failed : first.outcome = .error fault) : first.next more = first := by
  rw [next, failed]

end Run

namespace Check

def judge (check : Check) (schema : Schema) (query : Query) : Except Fault Unit :=
  match check with
  | .readOnly => (Mutation.check query).mapError .rejected
  | .adherence strictness =>
      if strictness.truthy then (Adherence.strict schema query).mapError .rejected else .ok ()
  | .custom _ judge => judge query schema

/-- Only a lenient schema check warns. -/
def warnings (check : Check) (schema : Schema) (query : Query) : List String :=
  match check with
  | .adherence strictness =>
      if strictness.truthy then [] else Adherence.warnings schema query
  | _ => []

def run (check : Check) (schema : Schema) (query : Query) : Run :=
  { calls := [{ check := check, query := query }]
    warnings := check.warnings schema query
    outcome := check.judge schema query }

def className : Check → String
  | .readOnly => "NoMutationValidator"
  | .adherence _ => "SchemaAdherenceValidator"
  | .custom name _ => name

def written? (check : Check) : Option String :=
  match check with
  | .adherence strictness =>
      strictness.shown?.map (fun shown => check.className ++ "(strict=" ++ shown ++ ")")
  | check => some (check.className ++ "()")

end Check

namespace Validator

mutual

/-- A submission is made ready once, before the first check sees it. -/
def run (schema : Schema) : Validator → Submission → Run
  | .leaf check, submission => check.run schema submission.query
  | .chain parts, submission => runAll schema parts submission.query
termination_by structural validator => validator

def runAll (schema : Schema) : List Validator → Query → Run
  | [], _ => .nothing
  | part :: parts, query =>
      (run schema part (.ready query)).next (fun _ => runAll schema parts query)
termination_by structural parts => parts

end

mutual

def leaves : Validator → List Check
  | .leaf check => [check]
  | .chain parts => leavesOf parts
termination_by structural validator => validator

def leavesOf : List Validator → List Check
  | [] => []
  | part :: parts => leaves part ++ leavesOf parts
termination_by structural parts => parts

end

mutual

def written? : Validator → Option String
  | .leaf check => check.written?
  | .chain parts =>
      (writtenAll? parts).map (fun parts => "ChainedQueryValidator(" ++ separate ", " parts ++ ")")
termination_by structural validator => validator

def writtenAll? : List Validator → Option (List String)
  | [] => some []
  | part :: parts => do
      let written ← written? part
      let others ← writtenAll? parts
      return written :: others
termination_by structural parts => parts

end

/-- The read-only check, then adherence to the schema. -/
def standard (strictness : Value) : Validator :=
  .chain [.leaf .readOnly, .leaf (.adherence strictness)]

def validate (validator : Validator) (schema : Schema) (submission : Submission) :
    Except Fault Unit :=
  (validator.run schema submission).outcome

end Validator

/-- The result of a validation as data: the refusal, if there was one. -/
structure Verdict where
  refusal : Option Rejection

def Verdict.passed (verdict : Verdict) : Bool :=
  verdict.refusal.isNone

def Verdict.reason (verdict : Verdict) : Option Value :=
  verdict.refusal.map Rejection.reason

def Verdict.validatorName (verdict : Verdict) : Option String :=
  verdict.refusal.map Rejection.validatorName

/-- Refusals become verdicts; any other fault remains one. -/
def Verdict.ofOutcome : Except Fault Unit → Except Fault Verdict
  | .ok () => .ok { refusal := none }
  | .error (.rejected rejection) => .ok { refusal := some rejection }
  | .error fault => .error fault

def Validator.verdict (validator : Validator) (schema : Schema) (submission : Submission) :
    Except Fault Verdict :=
  Verdict.ofOutcome (validator.validate schema submission)

end QueryWarden
