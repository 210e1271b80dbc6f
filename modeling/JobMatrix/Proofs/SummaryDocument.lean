import JobMatrix.Cli.Document
import Mathlib.Data.List.Forall2

/-!
What the document of a run says, read field by field: the run, its jobs in their order, their outcomes, and their steps
in the order of the plan.
-/
namespace JobMatrix.JsonValue

def field? (name : String) : JsonValue → Option JsonValue
  | object fields => Table.valueIn name fields
  | _ => none

def names : JsonValue → List String
  | object fields => fields.map Prod.fst
  | _ => []

def triggerWords : List (Trigger × String) :=
  [(.push, "push"), (.pullRequest, "pull_request"), (.schedule, "schedule"), (.manual, "manual")]

def toolchainWords : List (Toolchain × String) := [(.stable, "stable"), (.pinned, "pinned")]

def statusWords : List (StepStatus × String) :=
  [(.succeeded, "succeeded"), (.failed, "failed"), (.skipped, "skipped"), (.notRun, "not_run")]

structure ShowsJob (v : JsonValue) (job : Job) : Prop where
  names : v.names = ["index", "values", "toolchain"]
  index : v.field? "index" = some (.number job.index)
  values : v.field? "values" = some (.object (job.values.entries.map fun e => (e.1, .string e.2)))
  toolchain : ∃ word, v.field? "toolchain" = some (.string word) ∧ (job.toolchain, word) ∈ toolchainWords

inductive ShowsOutcome (v : JsonValue) : Outcome → Prop
  | success (names : v.names = ["status"]) (status : v.field? "status" = some (.string "success")) :
      ShowsOutcome v .success
  | failed {step : String} {code : Option Int} (names : v.names = ["status", "step", "exit_code"])
      (status : v.field? "status" = some (.string "failed")) (named : v.field? "step" = some (.string step))
      (exitCode : v.field? "exit_code" = some (code.elim .null .number)) : ShowsOutcome v (.failed step code)
  | aborted {reason : String} (names : v.names = ["status", "reason"])
      (status : v.field? "status" = some (.string "aborted")) (given : v.field? "reason" = some (.string reason)) :
      ShowsOutcome v (.aborted reason)

structure ShowsStep (v : JsonValue) (r : StepReport) : Prop where
  names : v.names = ["name", "status", "command", "exit_code", "error", "duration"]
  name : v.field? "name" = some (.string r.name)
  status : ∃ word, v.field? "status" = some (.string word) ∧ (r.status, word) ∈ statusWords
  command : v.field? "command" = some (r.command.elim .null .string)
  exitCode : v.field? "exit_code" = some (r.exitCode.elim .null .number)
  error : v.field? "error" = some (r.error.elim .null .string)

structure ShowsReport (v : JsonValue) (r : JobReport) : Prop where
  names : v.names = ["job", "outcome", "steps", "duration"]
  job : ∃ job, v.field? "job" = some job ∧ job.ShowsJob r.job
  outcome : ∃ outcome, v.field? "outcome" = some outcome ∧ outcome.ShowsOutcome r.outcome
  steps : ∃ steps, v.field? "steps" = some (.array steps) ∧ List.Forall₂ ShowsStep steps r.steps

structure ShowsSummary (v : JsonValue) (s : Summary) : Prop where
  names : v.names = ["workflow_name", "event", "jobs", "duration"]
  name : v.field? "workflow_name" = some (.string s.name)
  event : ∃ word, v.field? "event" = some (.string word) ∧ (s.trigger, word) ∈ triggerWords
  jobs : ∃ jobs, v.field? "jobs" = some (.array jobs) ∧ List.Forall₂ ShowsReport jobs s.jobs

theorem elim_eq_ofOption {α : Type} (f : α → JsonValue) (a : Option α) : a.elim .null f = ofOption f a := by
  cases a <;> rfl

theorem showsJob_jobFields (job : Job) : ShowsJob (.object (jobFields job)) job where
  names := rfl
  index := by simp [field?, Table.valueIn, jobFields]
  values := by simp [field?, Table.valueIn, jobFields]
  toolchain := by
    refine ⟨job.toolchain.name, by simp [field?, Table.valueIn, jobFields], ?_⟩
    cases job.toolchain <;> simp [toolchainWords, Toolchain.name]

theorem showsOutcome_ofOutcome (outcome : Outcome) : (ofOutcome outcome).ShowsOutcome outcome := by
  cases outcome with
  | success => exact .success rfl (by simp [field?, Table.valueIn, ofOutcome])
  | failed step code =>
    refine .failed rfl (by simp [field?, Table.valueIn, ofOutcome]) (by simp [field?, Table.valueIn, ofOutcome]) ?_
    simp [field?, Table.valueIn, ofOutcome, elim_eq_ofOption]
  | aborted reason => exact .aborted rfl (by simp [field?, Table.valueIn, ofOutcome]) (by simp [field?, Table.valueIn, ofOutcome])

theorem showsStep_ofStepReport (r : StepReport) : (ofStepReport r).ShowsStep r where
  names := rfl
  name := by simp [field?, Table.valueIn, ofStepReport]
  status := by
    refine ⟨r.status.name, by simp [field?, Table.valueIn, ofStepReport], ?_⟩
    cases r.status <;> simp [statusWords, StepStatus.name]
  command := by simp [field?, Table.valueIn, ofStepReport, elim_eq_ofOption]
  exitCode := by simp [field?, Table.valueIn, ofStepReport, elim_eq_ofOption]
  error := by simp [field?, Table.valueIn, ofStepReport, elim_eq_ofOption]

theorem showsReport_ofJobReport (r : JobReport) : (ofJobReport r).ShowsReport r where
  names := rfl
  job := ⟨_, by simp [field?, Table.valueIn, ofJobReport], showsJob_jobFields r.job⟩
  outcome := ⟨_, by simp [field?, Table.valueIn, ofJobReport], showsOutcome_ofOutcome r.outcome⟩
  steps := by
    refine ⟨r.steps.map ofStepReport, by simp [field?, Table.valueIn, ofJobReport], ?_⟩
    exact List.forall₂_map_left_iff.mpr (List.forall₂_same.mpr fun r _ => showsStep_ofStepReport r)

/-- The document of a run shows its summary, all of it. -/
theorem showsSummary_ofSummary (s : Summary) : (ofSummary s).ShowsSummary s where
  names := rfl
  name := by simp [field?, Table.valueIn, ofSummary]
  event := by
    refine ⟨s.trigger.name, by simp [field?, Table.valueIn, ofSummary], ?_⟩
    cases s.trigger <;> simp [triggerWords, Trigger.name]
  jobs := by
    refine ⟨s.jobs.map ofJobReport, by simp [field?, Table.valueIn, ofSummary], ?_⟩
    exact List.forall₂_map_left_iff.mpr (List.forall₂_same.mpr fun r _ => showsReport_ofJobReport r)

end JobMatrix.JsonValue
