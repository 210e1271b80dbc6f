/-!
One dimension of a job matrix.
-/
namespace JobMatrix

/-- A named dimension with its values in order. -/
structure Axis where
  name : String
  values : List String
  deriving DecidableEq

def Axis.size (axis : Axis) : Nat := axis.values.length

end JobMatrix
