import JobMatrix.Template

/-!
The plan of a build: its steps with their commands cut into segments.
-/
namespace JobMatrix

structure PlannedStep where
  step : Step
  template : Template
  deriving DecidableEq

abbrev Plan := List PlannedStep

def TemplateError.inStep (name : String) : TemplateError → DeclarationError
  | unknown expression => .unknownPlaceholder name expression
  | unterminated => .unterminatedPlaceholder name

def Step.planned (step : Step) : Except DeclarationError PlannedStep :=
  match Template.parse step.command with
  | .ok template => .ok ⟨step, template⟩
  | .error e => .error (e.inStep step.name)

def Plan.ofSteps (steps : List Step) : Except DeclarationError Plan :=
  steps.mapM Step.planned

end JobMatrix
