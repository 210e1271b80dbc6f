/-!
The shells that can run a step.
-/
namespace JobMatrix

inductive Shell
  | sh
  | bash
  | pwsh
  deriving DecidableEq, Inhabited

/-- The name of a shell, which is also its program. -/
def Shell.name : Shell → String
  | .sh => "sh"
  | .bash => "bash"
  | .pwsh => "pwsh"

end JobMatrix
