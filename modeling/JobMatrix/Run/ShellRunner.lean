import JobMatrix.Run.Capture
import JobMatrix.Run.Invocation
import JobMatrix.Script.Outcome

/-!
The runner that gives commands to shells. A shell that cannot be started answers with a message on the error
stream and without an exit code.
-/
namespace JobMatrix

inductive StartProblem
  | nulByte
  | path (problem : Script.PathProblem)
  deriving DecidableEq

def StartProblem.message : StartProblem → String
  | nulByte => "nul byte found in provided data"
  | path .missing => Script.PathProblem.missing.message ++ " (os error 2)"
  | path .notDirectory => Script.PathProblem.notDirectory.message ++ " (os error 20)"

/-- The dialect that a shell reads; no shell is there for the other commands. -/
def Shell.dialect? : Shell → Option Script.Dialect
  | .sh => some .sh
  | .bash => some .bash
  | .pwsh => none

/-- What a command leaves: the lines of its output and of its error stream, each also as one text, and its
exit code unless it was killed or not started. -/
structure ShellOutput where
  outputLines : List String
  errorLines : List String
  output : String
  errors : String
  exitCode : Option Int
  deriving DecidableEq

namespace ShellOutput

def ofOutcome (o : Script.Outcome) : ShellOutput :=
  let outputLines := Capture.linesOf o.output
  let errorLines := Capture.linesOf o.errors
  ⟨outputLines, errorLines, Capture.collect outputLines, Capture.collect errorLines, o.exitCode.map Int.ofNat⟩

def notStarted (shell : Shell) (problem : StartProblem) : ShellOutput :=
  ⟨[], [], "", "Failed to spawn shell process '" ++ shell.name ++ "': " ++ problem.message, none⟩

/-- The answer of a runner: the lines of the output and then those of the error stream. -/
def reply (o : ShellOutput) : Reply :=
  ⟨o.outputLines.map (⟨·, false⟩) ++ o.errorLines.map (⟨·, true⟩), .exited o.exitCode o.errors⟩

end ShellOutput

def hasNul (s : String) : Bool := s.toList.contains '\x00'

/-- A shell started in a directory. No byte of what it is given may be zero. -/
def startShell (shell : Shell) (command : String) (env : Table String) (directory : String) :
    Except StartProblem Script.Outcome := do
  if hasNul command || hasNul directory || env.entries.any fun (name, value) => hasNul name || hasNul value then
    throw .nulByte
  let place ← (Script.Tree.standard.directory "/" directory).mapError .path
  match shell.dialect? with
  | some dialect => return Script.outcomeOf dialect command env.entries place
  | none => throw (.path .missing)

def runShell (shell : Shell) (command : String) (env : Table String) (directory : String) : ShellOutput :=
  match startShell shell command env directory with
  | .ok outcome => .ofOutcome outcome
  | .error problem => .notStarted shell problem

/-- The answer of the shells to an invocation, whose variables are laid over those around it. -/
def answerByShell (around : Table String) (call : Invocation) : Reply :=
  (runShell call.shell call.command (around.overlay call.env) call.directory).reply

end JobMatrix
