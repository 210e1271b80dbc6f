import JobMatrix.Cli.Perform
import JobMatrix.Run.ShellRunner

/-!
The program: the command line with a file and the variables of the machine. Commands of steps go to the shells
of this library, which have a file tree of their own, and begin at its root.
-/
namespace JobMatrix.Cli

def fileState (path : String) : IO FileState := do
  try
    return .file (← IO.FS.readBinFile path)
  catch
    | .inappropriateType _ code _ => return if code = 21 then .directory else .missing
    | .permissionDenied .. => return .denied
    | _ => return .missing

def setVariables (names : List String) : IO (Table String) := do
  let mut table := Table.empty
  for name in names do
    if let some value ← IO.getEnv name then table := table.insert name value
  return table

/-- The variables that steps find as they are. -/
def passedOn : List String := ["HOME", "LANG", "LOGNAME", "PATH", "TMPDIR", "USER"]

def optionVariables : List String := ["MATRIX_PINNED_TOOLCHAIN", "MATRIX_ACCESS_TOKEN"]

def surroundingsOf (arguments : List String) : IO (Surroundings Unit) := do
  let state ← match readArguments arguments with
    | .ok i => fileState i.path
    | .error _ => pure .missing
  let known ← setVariables (passedOn ++ optionVariables)
  return ⟨fun _ => state, known.get?, .ok "/", .ofFunction (answerByShell known), (), .numbered⟩

def usage : List String :=
  ["Usage: job-matrix run [OPTIONS] <WORKFLOW>", "       job-matrix matrix [OPTIONS] <WORKFLOW>",
    "       job-matrix validate <WORKFLOW>"]

def refusal (e : ArgumentError) : List Printed × UInt32 :=
  match e.lines?, e with
  | some lines, _ => (lines.map .err, 2)
  | none, .help | none, .version => (usage.map .out, 0)
  | none, _ => (usage.map .err, 2)

def printAll (lines : List Printed) : IO Unit :=
  lines.forM fun
    | .out text => IO.println text
    | .err text => IO.eprintln text

def program (arguments : List String) : IO UInt32 := do
  match perform (← surroundingsOf arguments) arguments with
  | .ok finish =>
    printAll finish.printed
    if let some message := finish.report then IO.eprintln ("Error: " ++ message)
    return finish.exitCode.toUInt32
  | .error e =>
    let (lines, code) := refusal e
    printAll lines
    return code

end JobMatrix.Cli

def main (arguments : List String) : IO UInt32 := JobMatrix.Cli.program arguments
