import JobMatrix.Job

/-!
What is reported about a job: the status of every step, and the outcome.
-/
namespace JobMatrix

/-- A step is skipped if its gate excludes the job, and not run if an earlier step failed. -/
inductive StepStatus
  | succeeded
  | failed
  | skipped
  | notRun
  deriving DecidableEq

def StepStatus.name : StepStatus → String
  | succeeded => "succeeded"
  | failed => "failed"
  | skipped => "skipped"
  | notRun => "not_run"

/-- The report about a step. Command and error text are masked; the error text is that of a failed step. -/
structure StepReport where
  name : String
  status : StepStatus
  command : Option String
  exitCode : Option Int
  error : Option String
  deriving DecidableEq

def StepReport.idle (name : String) (status : StepStatus) : StepReport :=
  ⟨name, status, none, none, none⟩

/-- How a job ends. A failed one names its step and the exit code, if there is one. -/
inductive Outcome
  | success
  | failed (step : String) (exitCode : Option Int)
  | aborted (reason : String)
  deriving DecidableEq

namespace Outcome

def isSuccess : Outcome → Bool
  | success => true
  | _ => false

theorem isSuccess_iff (outcome : Outcome) : outcome.isSuccess = true ↔ outcome = .success := by
  cases outcome <;> simp [isSuccess]

def failedStep? : Outcome → Option String
  | failed step _ => some step
  | _ => none

def message : Outcome → String
  | success => "success"
  | failed step (some code) => s!"failed at step '{step}' (exit code {code})"
  | failed step none => s!"failed at step '{step}' (no exit code)"
  | aborted reason => s!"aborted: {reason}"

end Outcome

structure JobReport where
  job : Job
  outcome : Outcome
  steps : List StepReport
  deriving DecidableEq

def JobReport.executed (r : JobReport) : List String :=
  (r.steps.filter fun s => s.status == .succeeded || s.status == .failed).map (·.name)

end JobMatrix
