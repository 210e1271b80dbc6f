import JobMatrix.Script.Execution

/-!
What a script leaves when a shell runs it from its beginning to its end.
-/
namespace JobMatrix.Script

/-- How many commands may be nested, and how often one may be repeated. -/
def commandLimit : Nat := 1000000

/-- What a script leaves: its output, the output of its error stream, and its exit code unless it was killed. -/
structure Outcome where
  output : List Char
  errors : List Char
  exitCode : Option Nat
  deriving DecidableEq

def standardVariables : List (String × String) :=
  [("PATH", "/usr/local/sbin:/usr/local/bin:/usr/sbin:/usr/bin:/sbin:/bin"), ("HOME", "/root")]

/-- The exported variables with which a shell starts; in the standard dialect they have names of variables. -/
def exportedVariables (d : Dialect) (env : List (String × String)) (directory : String) : Table Variable :=
  let exported := fun (value : String) => (⟨[(0, value)], false, true, false⟩ : Variable)
  let inBytes := fun (s : String) => String.ofList (Text.bytes s)
  let given := env.filter fun (name, _) => d == .bash || isName name.toList
  Table.ofList ((standardVariables ++ given ++ [("PWD", directory)]).map fun (name, value) =>
    (inBytes name, exported (inBytes value)))

/-- A script run by a shell in a directory with variables added to its environment. -/
def outcomeOf (d : Dialect) (text : String) (env : List (String × String)) (directory : String) : Outcome :=
  let name := match d with
    | .sh => "sh"
    | .bash => "bash"
  let handles := [(0, Handle.null), (1, .channel 0), (2, .channel 1)]
  let session := Inner.startSession d 1000 name [] (exportedVariables d env directory) directory handles []
  let machine : Machine := ⟨session, ⟨#[default, default], Tree.standard, 1001, 0⟩⟩
  let inner : Inner := ⟨runCommand commandLimit, commandLimit⟩
  let (result, machine) := (inner.runScript .argument (String.ofList (Text.bytes text))).run.run machine
  let written := fun (id : Nat) =>
    (String.join ((machine.world.channels[id]?).getD default).written.reverse).toList
  ⟨written 0, written 1, match result with
    | .ok status => some status
    | .error _ => none⟩

end JobMatrix.Script
