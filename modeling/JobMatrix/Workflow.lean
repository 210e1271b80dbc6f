import JobMatrix.Axis
import JobMatrix.Decimal.Shortest
import JobMatrix.DeclarationError
import JobMatrix.Gate
import JobMatrix.Shell
import JobMatrix.Yaml.Value

/-!
The declaration of a build: its environment, its toolchain, its matrix and its steps.
-/
namespace JobMatrix

/-- A step with its command, which may hold placeholders. -/
structure Step where
  name : String
  command : String
  gate : Option Gate
  shell : Option Shell
  env : Table String
  directory : Option String
  deriving DecidableEq

/-- A declaration; `maxParallel` bounds the number of jobs at work at the same time, zero meaning no bound. -/
structure Workflow where
  name : Option String
  env : Table String
  toolchain : Option ToolchainAxis
  maxParallel : Option Nat
  matrix : Table (List Yaml.Value)
  steps : List Step

/-- The text of a scalar as an axis value; other values have none. -/
def Yaml.Value.scalarText? : Yaml.Value → Option String
  | .null => some ""
  | .bool b => some (toString b)
  | .int n => some (toString n)
  | .float x => some (Decimal.documentText x)
  | .string s => some s
  | .sequence _ | .mapping _ | .tagged .. => none

namespace Workflow

def axisOf (entry : String × List Yaml.Value) : Except DeclarationError Axis :=
  match entry.2.mapM Yaml.Value.scalarText? with
  | some values => .ok ⟨entry.1, values⟩
  | none => .error (.nonScalarValue entry.1)

def axes (w : Workflow) : Except DeclarationError (List Axis) :=
  w.matrix.entries.mapM axisOf

def displayName (w : Workflow) : String := w.name.getD "workflow"

end Workflow
end JobMatrix
