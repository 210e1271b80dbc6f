import JobMatrix.Shell
import JobMatrix.Table

/-!
What a runner is asked to do for a step, and what it answers.
-/
namespace JobMatrix

structure Invocation where
  step : String
  command : String
  shell : Shell
  env : Table String
  directory : String
  deriving DecidableEq

structure OutputLine where
  text : String
  isError : Bool
  deriving DecidableEq

/-- How an invocation ends: with an exit code, if there is one, and the text of its error stream; or by a
crash of the runner itself, which may have a message. -/
inductive Ending
  | exited (code : Option Int) (errors : String)
  | crashed (message : Option String)
  deriving DecidableEq

/-- The lines of output in the order in which they came, and the ending. -/
structure Reply where
  lines : List OutputLine
  ending : Ending
  deriving DecidableEq

/-- A runner answers an invocation from its state, and changes its state. -/
abbrev Runner (σ : Type) := σ → Invocation → Reply × σ

def Runner.ofFunction (answer : Invocation → Reply) : Runner Unit := fun _ call => (answer call, ())

def isSuccess (code : Option Int) : Bool := code == some 0

end JobMatrix
