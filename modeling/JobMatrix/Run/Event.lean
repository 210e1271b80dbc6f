import JobMatrix.Run.Report
import JobMatrix.Trigger

/-!
The events that tell of a run while it goes on.
-/
namespace JobMatrix

/-- An event of one job. Steps are named by their place in the plan and their name. -/
inductive JobEvent
  | started (steps : Nat)
  | stepSkipped (index : Nat) (name reason : String)
  | stepStarted (index : Nat) (name command : String)
  | stepOutput (index : Nat) (line : String) (isError : Bool)
  | stepCompleted (index : Nat) (name : String) (status : StepStatus) (exitCode : Option Int)
  | completed (outcome : Outcome)
  deriving DecidableEq

inductive RunEvent
  | started (name : String) (trigger : Trigger) (jobs : Nat)
  | job (index : Nat) (name : String) (event : JobEvent)
  | completed (success : Bool) (jobs failed : Nat)
  deriving DecidableEq

end JobMatrix
