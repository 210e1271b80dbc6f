import JobMatrix.Job
import JobMatrix.Trigger

/-!
Gates: the conditions under which a step applies to a job. Every condition must hold, and the first
that does not is the reason to skip the step.
-/
namespace JobMatrix

/-- Conditions on the toolchain, on values of axes, and on the event; an empty list of events allows all. -/
structure Gate where
  toolchain : Option Toolchain
  values : Table String
  triggers : List Trigger
  deriving DecidableEq

inductive SkipReason
  | toolchain (required actual : Toolchain)
  | value (axis required actual : String)
  | noValue (axis required : String)
  | trigger (allowed : List Trigger) (actual : Trigger)
  deriving DecidableEq

def SkipReason.message : SkipReason → String
  | toolchain required actual => "requires " ++ required.name ++ " toolchain, job uses " ++ actual.name
  | value axis required actual => s!"requires {axis}='{required}', job has {axis}='{actual}'"
  | noValue axis required => s!"requires {axis}='{required}', job has no {axis}"
  | trigger allowed actual =>
    "runs on [" ++ Text.joinWith ", " (allowed.map Trigger.name) ++ "], triggered by " ++ actual.name

namespace Gate

def toolchainReason? (required : Option Toolchain) (job : Job) : Option SkipReason :=
  match required with
  | some t => if job.toolchain = t then none else some (.toolchain t job.toolchain)
  | none => none

def valueReason? (job : Job) : List (String × String) → Option SkipReason
  | [] => none
  | (axis, required) :: rest =>
    match job.value? axis with
    | some actual =>
      if actual = required then valueReason? job rest else some (.value axis required actual)
    | none => some (.noValue axis required)

def triggerReason? (allowed : List Trigger) (trigger : Trigger) : Option SkipReason :=
  if allowed = [] ∨ trigger ∈ allowed then none else some (.trigger allowed trigger)

/-- The first condition that fails: toolchain, values as declared, event. -/
def reason? (gate : Gate) (job : Job) (trigger : Trigger) : Option SkipReason :=
  (toolchainReason? gate.toolchain job).or
    ((valueReason? job gate.values.entries).or (triggerReason? gate.triggers trigger))

end Gate

/-- Why a step with an optional gate is skipped; a step without one never is. -/
def skipReason? (gate : Option Gate) (job : Job) (trigger : Trigger) : Option SkipReason :=
  gate.bind (·.reason? job trigger)

def applies (gate : Option Gate) (job : Job) (trigger : Trigger) : Bool :=
  (skipReason? gate job trigger).isNone

end JobMatrix
