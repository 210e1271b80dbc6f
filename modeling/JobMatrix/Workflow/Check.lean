import JobMatrix.Expansion
import JobMatrix.Plan

/-!
Checking a declaration. The checks come in a fixed order, and the first one that fails is reported: values
of axes, axes and toolchain, names of steps, gates, commands, and the axes that commands mention.
-/
namespace JobMatrix

/-- Names of steps are not blank and pairwise different; `index` is the place of the first one. -/
def checkNames (seen : List String) (index : Nat) : List Step → Except DeclarationError Unit
  | [] => .ok ()
  | step :: rest =>
    if Text.isBlankText step.name then .error (.unnamedStep index)
    else if step.name ∈ seen then .error (.repeatedStepName step.name)
    else checkNames (step.name :: seen) (index + 1) rest

/-- A condition on a value names a declared axis and one of its values. -/
def checkCondition (axes : List Axis) (step : String) (condition : String × String) :
    Except DeclarationError Unit :=
  match axes.find? (·.name == condition.1) with
  | none => .error (.unknownGateAxis step condition.1)
  | some axis =>
    if condition.2 ∈ axis.values then .ok ()
    else .error (.unknownGateValue step condition.1 condition.2)

def checkGate (axes : List Axis) (step : Step) : Except DeclarationError Unit :=
  match step.gate with
  | some gate => gate.values.entries.forM (checkCondition axes step.name)
  | none => .ok ()

/-- A placeholder for a value names a declared axis. -/
def checkPlaceholder (axes : List Axis) (step : String) : Placeholder → Except DeclarationError Unit
  | .matrix axis =>
    if axes.any (·.name == axis) then .ok ()
    else .error (.unknownPlaceholder step ("matrix." ++ axis))
  | _ => .ok ()

def checkPlaceholders (axes : List Axis) (planned : PlannedStep) : Except DeclarationError Unit :=
  planned.template.placeholders.forM (checkPlaceholder axes planned.step.name)

/-- The declaration has axes and steps of which jobs can be made. -/
def Workflow.check (w : Workflow) : Except DeclarationError Unit := do
  let axes ← w.axes
  checkAxes axes w.toolchain
  if w.steps = [] then throw .noSteps
  checkNames [] 0 w.steps
  w.steps.forM (checkGate axes)
  let plan ← Plan.ofSteps w.steps
  plan.forM (checkPlaceholders axes)

end JobMatrix
