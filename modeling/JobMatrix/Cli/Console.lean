import JobMatrix.Run.Build

/-!
The lines of the command line: what they look like, and on which of the two streams they appear. The
progress of a run is printed event by event; standard output carries the output of steps, or under
`--json` the summary document alone.
-/
namespace JobMatrix

/-- Text printed with a line break after it, on standard output or on the error stream. -/
inductive Printed
  | out (text : String)
  | err (text : String)
  deriving DecidableEq

structure OutputFlags where
  quiet : Bool
  json : Bool
  deriving DecidableEq

namespace Printed

/-- Text in a style, given by the numbers of a terminal's control sequence. -/
def styled (style text : String) : String :=
  "\x1b[" ++ style ++ "m" ++ text ++ "\x1b[0m"

def padLeft (width : Nat) (s : String) : String :=
  String.ofList (List.replicate (width - s.length) ' ') ++ s

def status (action message : String) : Printed :=
  .err (styled "1;36" (padLeft 12 action) ++ " " ++ message)

def success (message : String) : Printed := .err (styled "1;32" "  ✓" ++ " " ++ message)

def failure (message : String) : Printed := .err (styled "1;31" "  ✗" ++ " " ++ message)

def check (message : String) : Printed := .err (styled "32" "  ✓" ++ " " ++ message)

def warning (message : String) : Printed := .err (styled "33" "  !" ++ " " ++ message)

def error (message : String) : Printed := .err (styled "1;31" "error:" ++ " " ++ message)

def info (message : String) : Printed := .err (styled "36" "  i" ++ " " ++ message)

def dim (message : String) : Printed := .err (styled "2" message)

def header (message : String) : Printed := .err (styled "1" ("==> " ++ message))

def verdict (isSuccess : Bool) (message : String) : Printed :=
  .err (styled (if isSuccess then "32" else "31") message)

def jobTag (index : Nat) : String := "[job " ++ padLeft 2 (toString (index + 1)) ++ "]"

/-- A duration. No clock is kept, so every duration is nothing. -/
def duration : String := "0.00s"

def outputLine (flags : OutputFlags) (index : Nat) (line : String) (isError : Bool) : List Printed :=
  let text := jobTag index ++ "     | " ++ line
  if flags.quiet then []
  else if isError then [.err (styled "31" text)]
  else if flags.json then [.err text]
  else [.out text]

/-- What is added to the verdict on a step that failed. -/
def exitInfo (status : StepStatus) : Option Int → String
  | some code => if code = 0 then "" else s!" (exit code: {code})"
  | none => if status = .failed then " (not started)" else ""

def word (isSuccess : Bool) : String := if isSuccess then "OK" else "FAIL"

def ofJobEvent (flags : OutputFlags) (index : Nat) (name : String) : JobEvent → List Printed
  | .started steps => [.err (styled "1;34" (jobTag index) ++ s!" {name} ({steps} steps)")]
  | .stepSkipped _ step reason => [dim (jobTag index ++ s!"   {step} skipped: {reason}")]
  | .stepStarted place step command =>
    [.err (jobTag index ++ s!"   [Step {place + 1}] {step}"), dim (jobTag index ++ s!"     $ {command}")]
  | .stepOutput _ line isError => outputLine flags index line isError
  | .stepCompleted _ _ status code =>
    let good := status == .succeeded
    [verdict good (jobTag index ++ "     " ++ word good ++ " (" ++ duration ++ ")" ++ exitInfo status code)]
  | .completed outcome =>
    let good := outcome.isSuccess
    [verdict good (jobTag index ++ " " ++ word good ++ " (" ++ duration ++ ")")]

def ofRunEvent (flags : OutputFlags) : RunEvent → List Printed
  | .started name trigger jobs =>
    [.err "", header (s!"Workflow '{name}' on " ++ trigger.name ++ s!" ({jobs} jobs)")]
  | .job index name event => ofJobEvent flags index name event
  | .completed good jobs failed =>
    [.err "", if good then success (s!"{jobs} jobs succeeded in " ++ duration)
      else failure (s!"{failed} of {jobs} jobs failed after " ++ duration)]

def closingLine (r : JobReport) : Printed :=
  verdict r.outcome.isSuccess
    ("  " ++ jobTag r.job.index ++ " " ++ r.job.name ++ ": " ++ r.outcome.message)

end Printed
end JobMatrix
