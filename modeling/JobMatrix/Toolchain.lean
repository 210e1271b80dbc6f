/-!
The two toolchains of a build, and how a declaration picks the axis that chooses between them.
-/
namespace JobMatrix

inductive Toolchain
  | stable
  | pinned
  deriving DecidableEq, Inhabited

def Toolchain.name : Toolchain → String
  | .stable => "stable"
  | .pinned => "pinned"

/-- A job uses the pinned toolchain when its value on `axis` is `pinned`. The pinned toolchain goes by
`version`, or else by `pinned`; the other one by the label `stable`. -/
structure ToolchainAxis where
  axis : String
  pinned : String
  version : Option String
  stable : String
  deriving DecidableEq

/-- The settings of a declaration that leaves all of them out. -/
def ToolchainAxis.standard : ToolchainAxis :=
  ⟨"toolchain", "nightly", none, "stable"⟩

end JobMatrix
