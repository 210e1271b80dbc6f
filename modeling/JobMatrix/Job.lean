import JobMatrix.Table
import JobMatrix.Text.Search
import JobMatrix.Toolchain

/-!
A job: one choice of a value for every axis.
-/
namespace JobMatrix

structure Job where
  index : Nat
  values : Table String
  toolchain : Toolchain
  deriving DecidableEq

namespace Job

def value? (job : Job) (axis : String) : Option String := job.values.get? axis

/-- Every axis with its value, as in `os=linux, mode=fast`. -/
def name (job : Job) : String :=
  Text.joinWith ", " (job.values.entries.map fun (axis, value) => axis ++ "=" ++ value)

end Job
end JobMatrix
