import JobMatrix.Text.Lowercase

/-!
The events that trigger a build.
-/
namespace JobMatrix

inductive Trigger
  | push
  | pullRequest
  | schedule
  | manual
  deriving DecidableEq

namespace Trigger

def name : Trigger → String
  | push => "push"
  | pullRequest => "pull_request"
  | schedule => "schedule"
  | manual => "manual"

/-- The event of a name in lower case, other spellings included. -/
def ofLowercase? : String → Option Trigger
  | "push" => some .push
  | "pull_request" | "pull-request" | "pr" => some .pullRequest
  | "schedule" => some .schedule
  | "manual" | "workflow_dispatch" => some .manual
  | _ => none

def unknownMessage (name : String) : String :=
  s!"Unknown trigger event '{name}'. Expected one of: push, pull_request, schedule, manual"

/-- The event of a name in any case; the message shows an unknown name in lower case. -/
def parse (name : String) : Except String Trigger :=
  let lower := Text.lowercase name
  match ofLowercase? lower with
  | some trigger => .ok trigger
  | none => .error (unknownMessage lower)

end Trigger
end JobMatrix
