/-!
What can be wrong with a declaration, each cause with its wording and with the step it concerns.
-/
namespace JobMatrix

inductive DeclarationError
  | noAxes
  | emptyAxis (axis : String)
  | nonScalarValue (axis : String)
  | repeatedValue (axis value : String)
  | tooManyJobs
  | noSteps
  | unnamedStep (index : Nat)
  | repeatedStepName (name : String)
  | unknownGateAxis (step axis : String)
  | unknownGateValue (step axis value : String)
  | unknownToolchainAxis (axis : String)
  | unknownPinnedValue (axis value : String)
  | unknownPlaceholder (step placeholder : String)
  | unterminatedPlaceholder (step : String)
  deriving DecidableEq

namespace DeclarationError

def message : DeclarationError → String
  | noAxes => "no matrix axes declared"
  | emptyAxis axis => s!"matrix axis '{axis}' has no values"
  | nonScalarValue axis => s!"matrix axis '{axis}' has a non-scalar value"
  | repeatedValue axis value => s!"matrix axis '{axis}' declares value '{value}' more than once"
  | tooManyJobs => "matrix has more combinations than can be addressed"
  | noSteps => "no steps declared"
  | unnamedStep index => s!"step {index} has an empty name"
  | repeatedStepName name => s!"step name '{name}' is declared more than once"
  | unknownGateAxis step axis => s!"step '{step}' is gated on unknown matrix axis '{axis}'"
  | unknownGateValue step axis value =>
    s!"step '{step}' is gated on '{axis}={value}', which is not a declared value"
  | unknownToolchainAxis axis => s!"toolchain axis '{axis}' is not a declared matrix axis"
  | unknownPinnedValue axis value =>
    s!"pinned toolchain value '{value}' is not a value of axis '{axis}'"
  | unknownPlaceholder step placeholder =>
    "step '" ++ step ++ "' references unknown placeholder '$\x7b\x7b " ++ placeholder ++ " \x7d\x7d'"
  | unterminatedPlaceholder step => "step '" ++ step ++ "' has an unterminated '$\x7b\x7b' placeholder"

/-- The message where errors of several kinds meet. -/
def fullMessage (e : DeclarationError) : String :=
  "configuration error: " ++ e.message

def step? : DeclarationError → Option String
  | unknownGateAxis step _ => some step
  | unknownGateValue step _ _ => some step
  | unknownPlaceholder step _ => some step
  | unterminatedPlaceholder step => some step
  | repeatedStepName name => some name
  | _ => none

end DeclarationError
end JobMatrix
