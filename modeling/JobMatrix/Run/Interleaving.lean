import JobMatrix.Run.Build

/-!
A run in which the jobs go on side by side. A job waits for a permit, takes it, works through its plan move by
move, tells how it ended and gives the permit back; when every job has done so the run is closed. Whose turn it
is, and what the runner answers, is open at every point: a course of a run is a list of moves.
-/
namespace JobMatrix

inductive Phase
  | waiting
  | admitted
  | ready (done : List StepReport) (ahead : Plan)
  /-- The runner is at work on a step; output and ending are still to come. -/
  | asked (done : List StepReport) (step : PlannedStep) (ahead : Plan) (reply : Reply)
  | stopped (steps : List StepReport) (stop : Stop)
  | told (report : JobReport)
  | gone
  deriving DecidableEq

def Phase.hasPermit : Phase → Bool
  | waiting | gone => false
  | _ => true

def Phase.isAtWork : Phase → Bool
  | ready .. | asked .. | stopped .. => true
  | _ => false

/-- The next move of a job that has its permit: where it leads, and the events it sends. The reply is the one to
the step that the move begins, if it begins one. -/
def JobContext.next? (c : JobContext) (plan : Plan) (reply : Reply) : Phase → Option (Phase × List JobEvent)
  | .admitted => some (.ready [] plan, [.started plan.length])
  | .ready done [] => some (.stopped done .completed, [])
  | .ready done (s :: ahead) =>
    match c.skipReason? s with
    | some reason =>
      some (.ready (done ++ [.idle s.step.name .skipped]) ahead,
        [.stepSkipped done.length s.step.name reason.message])
    | none =>
      some (.asked done s ahead reply, [.stepStarted done.length s.step.name (c.shownCommand s)])
  | .asked done s ahead ⟨line :: lines, ending⟩ =>
    some (.asked done s ahead ⟨lines, ending⟩, c.outputEvents done.length [line])
  | .asked done s ahead ⟨[], .exited code errors⟩ =>
    let report := c.stepReport s code errors
    let idle := ahead.map fun t => .idle t.step.name .notRun
    let after : Phase :=
      if isSuccess code then .ready (done ++ [report]) ahead
      else .stopped (done ++ report :: idle) (.failed s.step.name code)
    some (after, [.stepCompleted done.length s.step.name report.status code])
  | .asked _ _ _ ⟨[], .crashed message⟩ => some (.stopped [] (.crashed message), [])
  | .stopped steps stop => some (.told (c.report plan steps stop), [.completed (c.outcome stop)])
  | .waiting | .told _ | .gone => none

def JobContext.nextCall? (c : JobContext) : Phase → Option Invocation
  | .ready _ (s :: _) => if (c.skipReason? s).isNone then some (c.invocation s) else none
  | _ => none

structure Lane where
  job : Job
  phase : Phase
  deriving DecidableEq

/-- A run on its way: the jobs in the order of the matrix, the free permits if there is a bound, the events so
far, the reports about the jobs that are gone in the order in which they went, and the summary once the run is
closed. -/
structure RunState where
  lanes : List Lane
  free : Option Nat
  log : List RunEvent
  reports : List JobReport
  summary : Option Summary
  deriving DecidableEq

/-- What can happen next: the job at a place takes a permit, works on, or gives its permit back; or the run is
closed. -/
inductive Move
  | acquire (place : Nat)
  | work (place : Nat) (reply : Reply)
  | release (place : Nat)
  | close
  deriving DecidableEq

def Move.reply? : Move → Option Reply
  | work _ reply => some reply
  | _ => none

namespace RunState

def takePermit? : Option Nat → Option (Option Nat)
  | none => some none
  | some 0 => none
  | some (n + 1) => some (some n)

def held (s : RunState) : Nat := (s.lanes.filter (·.phase.hasPermit)).length

def moveTo (s : RunState) (place : Nat) (job : Job) (phase : Phase) (events : List JobEvent) : RunState :=
  { s with
    lanes := s.lanes.set place ⟨job, phase⟩
    log := s.log ++ events.map (.job job.index job.name) }

def allGone (s : RunState) : Bool := s.lanes.all (·.phase == .gone)

end RunState

namespace Build

def startingState (b : Build) (trigger : Trigger) (jobs : List Job) : RunState where
  lanes := jobs.map (⟨·, .waiting⟩)
  free := b.bound
  log := [.started b.name trigger jobs.length]
  reports := []
  summary := none

def summaryOf (b : Build) (trigger : Trigger) (reports : List JobReport) : Summary :=
  ⟨b.name, trigger, reports.mergeSort fun r t => r.job.index ≤ t.job.index⟩

def step? (b : Build) (tasks : Tasks) (trigger : Trigger) (s : RunState) : Move → Option RunState
  | .acquire place =>
    match s.lanes[place]?, RunState.takePermit? s.free with
    | some ⟨job, .waiting⟩, some free => some { s.moveTo place job .admitted [] with free := free }
    | _, _ => none
  | .work place reply =>
    match s.lanes[place]? with
    | some ⟨job, phase⟩ =>
      ((b.context tasks job trigger).next? b.plan reply phase).map fun (phase, events) =>
        s.moveTo place job phase events
    | none => none
  | .release place =>
    match s.lanes[place]? with
    | some ⟨job, .told report⟩ =>
      some { s.moveTo place job .gone [] with free := s.free.map (· + 1), reports := s.reports ++ [report] }
    | _ => none
  | .close =>
    if s.allGone && s.summary.isNone then
      let summary := b.summaryOf trigger s.reports
      some { s with summary := some summary, log := s.log ++ [summary.closing] }
    else none

def steps? (b : Build) (tasks : Tasks) (trigger : Trigger) (s : RunState) (moves : List Move) : Option RunState :=
  moves.foldlM (b.step? tasks trigger) s

def callOf? (b : Build) (tasks : Tasks) (trigger : Trigger) (s : RunState) : Move → Option Invocation
  | .work place _ => do
    let lane ← s.lanes[place]?
    (b.context tasks lane.job trigger).nextCall? lane.phase
  | _ => none

/-- The states that a run can come to, whoever's turn it is, when each reply is one that the runner may give. -/
inductive Reachable (b : Build) (tasks : Tasks) (trigger : Trigger) (jobs : List Job)
    (may : Invocation → Reply → Prop) : RunState → Prop
  | start : Reachable b tasks trigger jobs may (b.startingState trigger jobs)
  | step {s t : RunState} (move : Move) (before : Reachable b tasks trigger jobs may s)
      (comes : b.step? tasks trigger s move = some t)
      (given : ∀ call ∈ b.callOf? tasks trigger s move, ∀ reply ∈ move.reply?, may call reply) :
      Reachable b tasks trigger jobs may t

end Build
end JobMatrix
