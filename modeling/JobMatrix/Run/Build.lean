import JobMatrix.Run.JobRun
import JobMatrix.Workflow.Check

/-!
A build: a checked declaration together with settings. A build can be expanded into jobs, rehearsed
without running anything, and run.
-/
namespace JobMatrix
variable {σ : Type}

structure Build where
  name : String
  axes : List Axis
  toolchain : Option ToolchainAxis
  bound : Option Nat
  plan : Plan
  settings : Settings
  deriving DecidableEq

/-- A bound on the jobs at work at the same time; zero is no bound. -/
def parallelBound (n : Nat) : Option Nat := if n = 0 then none else some n

def greatestBound : Nat := Nat.pow 2 61 - 1

/-- A step as it would run for a job: the command to show, or the reason to skip it. -/
structure Rehearsal where
  name : String
  command : Option String
  skipReason : Option String
  deriving DecidableEq

structure Summary where
  name : String
  trigger : Trigger
  jobs : List JobReport
  deriving DecidableEq

namespace Summary

def success (s : Summary) : Bool := s.jobs.all (·.outcome.isSuccess)

def failedJobs (s : Summary) : List JobReport := s.jobs.filter (!·.outcome.isSuccess)

def opening (s : Summary) : RunEvent := .started s.name s.trigger s.jobs.length

def closing (s : Summary) : RunEvent :=
  let failed := s.failedJobs.length
  .completed (failed == 0) s.jobs.length failed

end Summary

/-- What a run comes to: a value; an error, when the matrix cannot be expanded; or a panic of its own, when it has been
announced and no permits can be made for its bound. -/
inductive RunResult (α : Type)
  | ok (value : α)
  | error (error : DeclarationError)
  | panic (announcement : RunEvent)
  deriving DecidableEq

namespace RunResult
variable {α β : Type}

def map (f : α → β) : RunResult α → RunResult β
  | ok a => ok (f a)
  | error e => error e
  | panic announcement => panic announcement

def value? : RunResult α → Option α
  | ok a => some a
  | error _ | panic _ => none

end RunResult

structure BuildRun (σ : Type) where
  summary : Summary
  jobs : List (JobRun σ)
  state : σ

namespace Build

def ofWorkflow (w : Workflow) (settings : Settings) : Except DeclarationError Build := do
  w.check
  return ⟨w.displayName, ← w.axes, w.toolchain, w.maxParallel.bind parallelBound,
    ← Plan.ofSteps w.steps, settings⟩

def withBound (b : Build) (n : Nat) : Build := { b with bound := parallelBound n }

/-- The build under another bound, if one is given. -/
def underBound (b : Build) : Option Nat → Build
  | some n => b.withBound n
  | none => b

def expand (b : Build) : Except DeclarationError (List Job) :=
  JobMatrix.expand b.axes b.toolchain

def begin (b : Build) (trigger : Trigger) : RunResult (List Job) :=
  match b.expand with
  | .ok jobs =>
    if b.bound.any (greatestBound < ·) then .panic (.started b.name trigger jobs.length) else .ok jobs
  | .error e => .error e

def context (b : Build) (tasks : Tasks) (job : Job) (trigger : Trigger) : JobContext :=
  ⟨b.settings, job, trigger, tasks.crashText job⟩

def rehearse (b : Build) (job : Job) (trigger : Trigger) : List Rehearsal :=
  b.plan.map fun s =>
    match skipReason? s.step.gate job trigger with
    | some reason => ⟨s.step.name, none, some reason.message⟩
    | none => ⟨s.step.name, some (s.template.display job b.settings s.step.env), none⟩

def runJob (b : Build) (tasks : Tasks) (job : Job) (trigger : Trigger) (runner : Runner σ) (state : σ) :
    JobRun σ :=
  (b.context tasks job trigger).run b.plan runner state

def runJobs (b : Build) (tasks : Tasks) (trigger : Trigger) (runner : Runner σ) :
    List Job → σ → List (JobRun σ) × σ
  | [], state => ([], state)
  | job :: rest, state =>
    let first := b.runJob tasks job trigger runner state
    let (later, state) := runJobs b tasks trigger runner rest first.state
    (first :: later, state)

def run (b : Build) (tasks : Tasks) (trigger : Trigger) (runner : Runner σ) (state : σ) :
    RunResult (BuildRun σ) :=
  (b.begin trigger).map fun jobs =>
    let (runs, state) := b.runJobs tasks trigger runner jobs state
    ⟨⟨b.name, trigger, runs.map (·.report)⟩, runs, state⟩

end Build

namespace BuildRun

def jobEvents (r : JobRun σ) : List RunEvent :=
  r.events.map (.job r.report.job.index r.report.job.name)

def events (r : BuildRun σ) : List RunEvent :=
  r.summary.opening :: r.jobs.flatMap jobEvents ++ [r.summary.closing]

def calls (r : BuildRun σ) : List Invocation := r.jobs.flatMap (·.calls)

end BuildRun

namespace RunResult

def events : RunResult (BuildRun σ) → List RunEvent
  | ok r => r.events
  | error _ => []
  | panic announcement => [announcement]

def calls : RunResult (BuildRun σ) → List Invocation
  | ok r => r.calls
  | error _ | panic _ => []

end RunResult
end JobMatrix
