import JobMatrix.Plan
import JobMatrix.Run.Event
import JobMatrix.Run.Invocation
import JobMatrix.Run.Task

/-!
Running the steps of one job. Steps run in the order of the plan; the first one that fails is the last one
executed. A crash of the runner ends the job where it is, and the whole job counts as aborted.
-/
namespace JobMatrix
variable {σ : Type}

/-- What all steps of a job share, and the text for a crash of its task. -/
structure JobContext where
  settings : Settings
  job : Job
  trigger : Trigger
  crashText : Option String → String

inductive Stop
  | completed
  | failed (step : String) (exitCode : Option Int)
  | crashed (message : Option String)
  deriving DecidableEq

/-- What some steps leave: their reports, events and invocations, how they stopped, and the runner's state. -/
structure Trace (σ : Type) where
  steps : List StepReport
  events : List JobEvent
  calls : List Invocation
  stop : Stop
  state : σ

namespace JobContext

def shownCommand (c : JobContext) (s : PlannedStep) : String :=
  s.template.display c.job c.settings s.step.env

def invocation (c : JobContext) (s : PlannedStep) : Invocation where
  step := s.step.name
  command := s.template.resolve c.job c.settings s.step.env
  shell := s.step.shell.getD .sh
  env := c.settings.processEnv s.step.env
  directory := c.settings.stepDirectory s.step.directory

def skipReason? (c : JobContext) (s : PlannedStep) : Option SkipReason :=
  JobMatrix.skipReason? s.step.gate c.job c.trigger

def outputEvents (c : JobContext) (index : Nat) (lines : List OutputLine) : List JobEvent :=
  lines.map fun line => .stepOutput index (c.settings.mask line.text) line.isError

def stepReport (c : JobContext) (s : PlannedStep) (code : Option Int) (errors : String) : StepReport where
  name := s.step.name
  status := if isSuccess code then .succeeded else .failed
  command := some (c.shownCommand s)
  exitCode := code
  error := if isSuccess code ∨ errors = "" then none else some (c.settings.mask errors)

/-- The events of a step that exited, between its start and its end. -/
def stepEvents (c : JobContext) (index : Nat) (s : PlannedStep) (lines : List OutputLine)
    (code : Option Int) : List JobEvent :=
  .stepStarted index s.step.name (c.shownCommand s) :: c.outputEvents index lines ++
    [.stepCompleted index s.step.name (if isSuccess code then .succeeded else .failed) code]

def runSteps (c : JobContext) (runner : Runner σ) : List PlannedStep → Nat → σ → Trace σ
  | [], _, state => ⟨[], [], [], .completed, state⟩
  | s :: rest, index, state =>
    match c.skipReason? s with
    | some reason =>
      let later := runSteps c runner rest (index + 1) state
      { later with
        steps := .idle s.step.name .skipped :: later.steps
        events := .stepSkipped index s.step.name reason.message :: later.events }
    | none =>
      let call := c.invocation s
      let (reply, state) := runner state call
      match reply.ending with
      | .crashed message =>
        ⟨[], .stepStarted index s.step.name (c.shownCommand s) :: c.outputEvents index reply.lines,
          [call], .crashed message, state⟩
      | .exited code errors =>
        let report := c.stepReport s code errors
        let events := c.stepEvents index s reply.lines code
        if isSuccess code then
          let later := runSteps c runner rest (index + 1) state
          { later with
            steps := report :: later.steps
            events := events ++ later.events
            calls := call :: later.calls }
        else
          ⟨report :: rest.map fun t => .idle t.step.name .notRun, events, [call],
            .failed s.step.name code, state⟩

end JobContext

def JobContext.outcome (c : JobContext) : Stop → Outcome
  | .completed => .success
  | .failed step code => .failed step code
  | .crashed message => .aborted (c.crashText message)

structure JobRun (σ : Type) where
  report : JobReport
  events : List JobEvent
  calls : List Invocation
  state : σ

/-- The report about a job whose steps have stopped. No step of an aborted job counts as run. -/
def JobContext.report (c : JobContext) (plan : Plan) (steps : List StepReport) (stop : Stop) : JobReport :=
  match stop with
  | .crashed _ => ⟨c.job, c.outcome stop, plan.map fun s => .idle s.step.name .notRun⟩
  | _ => ⟨c.job, c.outcome stop, steps⟩

def JobContext.run (c : JobContext) (plan : Plan) (runner : Runner σ) (state : σ) : JobRun σ :=
  let trace := c.runSteps runner plan 0 state
  ⟨c.report plan trace.steps trace.stop,
    .started plan.length :: trace.events ++ [.completed (c.outcome trace.stop)], trace.calls, trace.state⟩

end JobMatrix
