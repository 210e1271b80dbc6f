import JobMatrix.Axis
import JobMatrix.DeclarationError
import JobMatrix.Job

/-!
The jobs of a matrix. A job is read off its number: the numbers are written with one digit per axis,
the base of each digit being the size of its axis and the last axis varying fastest.
-/
namespace JobMatrix

/-- The largest number of jobs that can be addressed. -/
def jobLimit : Nat := UInt64.size - 1

/-- The number of combinations, refused as soon as a partial product exceeds the limit. -/
def jobCount (axes : List Axis) : Except DeclarationError Nat :=
  axes.foldlM (fun count axis =>
    if count * axis.size ≤ jobLimit then .ok (count * axis.size) else .error .tooManyJobs) 1

/-- The first value that was seen before or is met a second time. -/
def firstRepeated (seen : List String) : List String → Option String
  | [] => none
  | v :: rest => if v ∈ seen then some v else firstRepeated (v :: seen) rest

def checkAxis (axis : Axis) : Except DeclarationError Unit :=
  if axis.values = [] then .error (.emptyAxis axis.name)
  else match firstRepeated [] axis.values with
    | some value => .error (.repeatedValue axis.name value)
    | none => .ok ()

def checkToolchain (axes : List Axis) (toolchain : ToolchainAxis) : Except DeclarationError Unit :=
  match axes.find? (·.name == toolchain.axis) with
  | none => .error (.unknownToolchainAxis toolchain.axis)
  | some axis =>
    if toolchain.pinned ∈ axis.values then .ok ()
    else .error (.unknownPinnedValue toolchain.axis toolchain.pinned)

/-- The axes make a matrix: there is one, each is sound, and the toolchain's is among them. -/
def checkAxes (axes : List Axis) (toolchain : Option ToolchainAxis) : Except DeclarationError Unit := do
  if axes = [] then throw .noAxes
  axes.forM checkAxis
  toolchain.forM (checkToolchain axes)

/-- One position per axis for a job number, from the last axis backwards, and what is left of it. -/
def positions : List Axis → Nat → List Nat × Nat
  | [], number => ([], number)
  | axis :: rest, number =>
    let (later, left) := positions rest number
    (left % axis.size :: later, left / axis.size)

def choose (axes : List Axis) (places : List Nat) : Table String :=
  Table.ofList (axes.zipWith (fun axis place => (axis.name, axis.values[place]?.getD "")) places)

def toolchainOf (toolchain : Option ToolchainAxis) (values : Table String) : Toolchain :=
  match toolchain with
  | some t => if values.get? t.axis = some t.pinned then .pinned else .stable
  | none => .stable

def jobAt (axes : List Axis) (toolchain : Option ToolchainAxis) (number : Nat) : Job :=
  let values := choose axes (positions axes number).1
  ⟨number, values, toolchainOf toolchain values⟩

def expand (axes : List Axis) (toolchain : Option ToolchainAxis) : Except DeclarationError (List Job) := do
  checkAxes axes toolchain
  let count ← jobCount axes
  return (List.range count).map (jobAt axes toolchain)

/-- The choices of one value per axis, the first axis varying slowest. -/
def combinations : List Axis → List (List String)
  | [] => [[]]
  | axis :: rest => axis.values.flatMap fun value => (combinations rest).map (value :: ·)

end JobMatrix
