import JobMatrix.JsonValue
import JobMatrix.Run.Build

/-!
The documents that the command line prints under `--json`: the jobs of a matrix, and the summary of a run.
-/
namespace JobMatrix

namespace JsonValue

/-- A duration of nothing: no clock is kept. -/
def noDuration : JsonValue := .object [("secs", .number 0), ("nanos", .number 0)]

def jobFields (job : Job) : List (String × JsonValue) :=
  [("index", .number job.index),
    ("values", .object (job.values.entries.map fun (axis, value) => (axis, .string value))),
    ("toolchain", .string job.toolchain.name)]

def ofRehearsal (s : Rehearsal) : JsonValue :=
  .object [("name", .string s.name), ("command", ofOption .string s.command),
    ("skip_reason", ofOption .string s.skipReason)]

def ofJobs (jobs : List (Job × Option (List Rehearsal))) : JsonValue :=
  .array <| jobs.map fun (job, steps) =>
    .object (jobFields job ++ match steps with
      | some steps => [("steps", .array (steps.map ofRehearsal))]
      | none => [])

def ofOutcome : Outcome → JsonValue
  | .success => .object [("status", .string "success")]
  | .failed step code =>
    .object [("status", .string "failed"), ("step", .string step), ("exit_code", ofOption .number code)]
  | .aborted reason => .object [("status", .string "aborted"), ("reason", .string reason)]

def ofStepReport (s : StepReport) : JsonValue :=
  .object [("name", .string s.name), ("status", .string s.status.name),
    ("command", ofOption .string s.command), ("exit_code", ofOption .number s.exitCode),
    ("error", ofOption .string s.error), ("duration", noDuration)]

def ofJobReport (r : JobReport) : JsonValue :=
  .object [("job", .object (jobFields r.job)), ("outcome", ofOutcome r.outcome),
    ("steps", .array (r.steps.map ofStepReport)), ("duration", noDuration)]

def ofSummary (s : Summary) : JsonValue :=
  .object [("workflow_name", .string s.name), ("event", .string s.trigger.name),
    ("jobs", .array (s.jobs.map ofJobReport)), ("duration", noDuration)]

end JsonValue
end JobMatrix
