import JobMatrix.Run.Invocation
import JobMatrix.Text.Search

/-!
Runners that answer from a list of rules instead of running anything.
-/
namespace JobMatrix

/-- A rule holds for a step of a given name, and for commands with a given part; it gives the answer. -/
structure ReplyRule where
  step : Option String
  part : Option String
  reply : Reply

def ReplyRule.holds (rule : ReplyRule) (call : Invocation) : Bool :=
  rule.step.all (· == call.step) &&
    rule.part.all fun part => Text.occursIn part.toList call.command.toList

/-- The answer when no rule holds: success without output. -/
def Reply.silent : Reply := ⟨[], .exited (some 0) ""⟩

def answerFrom (rules : List ReplyRule) (call : Invocation) : Reply :=
  match rules.find? (·.holds call) with
  | some rule => rule.reply
  | none => .silent

def Reply.ofLines (output errors : List String) (code : Option Int) : Reply :=
  ⟨output.map (⟨·, false⟩) ++ errors.map (⟨·, true⟩), .exited code (Text.joinWith "\n" errors)⟩

end JobMatrix
