import JobMatrix.Proofs.StepEvents
import JobMatrix.Run.Build

/-!
A rehearsal tells what a run will do with each step of a job: which steps it skips and why, and which command it
runs for the others, as far as no step fails before them.
-/
namespace JobMatrix
variable {σ : Type} {c : JobContext} {runner : Runner σ} {plan : Plan} {index place : Nat} {state : σ}
  {trace : Trace σ} {s : PlannedStep} {r : StepReport} {events : List JobEvent} {tasks : Tasks}

def JobContext.rehearsal (c : JobContext) (s : PlannedStep) : Rehearsal :=
  match c.skipReason? s with
  | some reason => ⟨s.step.name, none, some reason.message⟩
  | none => ⟨s.step.name, some (c.shownCommand s), none⟩

theorem Build.rehearse_eq_map (b : Build) (tasks : Tasks) (job : Job) (trigger : Trigger) :
    b.rehearse job trigger = b.plan.map (b.context tasks job trigger).rehearsal := rfl

namespace JobContext

theorem name_rehearsal (c : JobContext) (s : PlannedStep) : (c.rehearsal s).name = s.step.name := by
  cases hg : c.skipReason? s <;> simp [rehearsal, hg]

theorem StepLeaves.rehearsal_of_skipped (h : c.StepLeaves place s r events) (hr : r.status = .skipped) :
    ∃ reason, c.rehearsal s = ⟨s.step.name, none, some reason⟩ ∧
      ∀ name text, .stepSkipped place name text ∈ events ↔ name = s.step.name ∧ text = reason := by
  cases h with
  | @skipped reason excluded => exact ⟨reason.message, by simp [rehearsal, excluded], by simp⟩
  | @executed lines code errors applies => cases hc : isSuccess code <;> simp [stepReport, hc] at hr
  | notRun => cases hr

theorem StepLeaves.rehearsal_of_executed (h : c.StepLeaves place s r events) (hr : r.wasExecuted = true) :
    ∃ command, c.rehearsal s = ⟨s.step.name, some command, none⟩ ∧ r.command = some command ∧
      ∀ name shown, .stepStarted place name shown ∈ events ↔ name = s.step.name ∧ shown = command := by
  cases h with
  | skipped | notRun => cases hr
  | @executed lines code errors applies =>
    refine ⟨c.shownCommand s, by simp [rehearsal, applies], rfl, ?_⟩
    simp [stepEvents, outputEvents]

/-- Where no failure comes before, a step is executed exactly if it is rehearsed with a command. -/
theorem StepLeaves.wasExecuted_iff (h : c.StepLeaves place s r events) (hr : r.status ≠ .notRun) :
    r.wasExecuted = true ↔ (c.rehearsal s).command.isSome = true := by
  cases h with
  | skipped excluded => simp [rehearsal, excluded]
  | executed applies => simp [rehearsal, applies]
  | notRun => exact absurd rfl hr

theorem Leaves.status_ne_notRun (h : c.Leaves runner plan index state trace)
    (succeed : ∀ reply ∈ runner.answers state trace.calls, reply.exitCode? = some 0) :
    ∀ r ∈ trace.steps, r.status ≠ .notRun := by
  induction h with
  | nil => simp
  | skipped excluded goes ih =>
    have hlater := ih succeed
    simpa [StepReport.idle] using hlater
  | succeeded applies answered success goes ih =>
    have hlater := ih fun reply hm => succeed reply (by simp [Runner.answers, answered, hm])
    simpa [stepReport, success] using hlater
  | @failed s rest index state next lines code errors applies answered failure =>
    have hcode : code = some 0 := by simpa [Runner.answers, answered, Reply.exitCode?] using succeed
    simp [isSuccess, hcode] at failure

end JobContext

/-- What a run of a job and a rehearsal of it have in common, step by step: the names; for a skipped step the
reason of its event; for an executed step the command of its report and of its event. If no invocation fails, the
steps with a command are those that are executed. -/
structure JobRun.AgreesWith (run : JobRun σ) (rehearsals : List Rehearsal) (plan : Plan) (runner : Runner σ)
    (state : σ) : Prop where
  rehearsed : rehearsals.map (·.name) = plan.map (·.step.name)
  reported : run.report.steps.map (·.name) = plan.map (·.step.name)
  skipped : ∀ (place : Nat) (told : Rehearsal) (report : StepReport),
    (rehearsals.zip run.report.steps)[place]? = some (told, report) → report.status = .skipped →
      told.command = none ∧ ∃ reason, told.skipReason = some reason ∧
        ∀ name text, .stepSkipped place name text ∈ run.events ↔ name = told.name ∧ text = reason
  executed : ∀ (place : Nat) (told : Rehearsal) (report : StepReport),
    (rehearsals.zip run.report.steps)[place]? = some (told, report) → report.wasExecuted = true →
      told.skipReason = none ∧ ∃ command, told.command = some command ∧ report.command = some command ∧
        ∀ name shown, .stepStarted place name shown ∈ run.events ↔ name = told.name ∧ shown = command
  complete : (∀ reply ∈ runner.answers state run.calls, reply.exitCode? = some 0) →
    ∀ (place : Nat) (told : Rehearsal) (report : StepReport),
      (rehearsals.zip run.report.steps)[place]? = some (told, report) →
        (report.wasExecuted = true ↔ told.command.isSome = true)

theorem Build.stepLeaves_of_zip (b : Build) (job : Job) (trigger : Trigger) (steady : runner.IsSteady) (state : σ)
    {told : Rehearsal}
    (hp : ((b.rehearse job trigger).zip (b.runJob tasks job trigger runner state).report.steps)[place]? =
      some (told, r)) :
    ∃ s, (b.context tasks job trigger).rehearsal s = told ∧ (b.context tasks job trigger).StepLeaves place s r
      (eventsAt place (b.runJob tasks job trigger runner state).events) := by
  obtain ⟨hl, hr⟩ := List.getElem?_zip_eq_some.mp hp
  rw [b.rehearse_eq_map tasks, List.getElem?_map, Option.map_eq_some_iff] at hl
  obtain ⟨s, hs, htold⟩ := hl
  exact ⟨s, htold, (b.context tasks job trigger).run_stepLeaves steady state hs hr⟩

theorem Build.rehearse_agrees_with_run (b : Build) (tasks : Tasks) (job : Job) (trigger : Trigger) {runner : Runner σ}
    (steady : runner.IsSteady) (state : σ) :
    (b.runJob tasks job trigger runner state).AgreesWith (b.rehearse job trigger) b.plan runner state := by
  have h := (b.context tasks job trigger).leaves_runSteps steady b.plan 0 state
  have hreport : (b.runJob tasks job trigger runner state).report = ⟨job, _, _⟩ := JobContext.report_of_leaves h
  constructor
  · rw [b.rehearse_eq_map tasks, List.map_map]
    exact List.map_congr_left fun s _ => (b.context tasks job trigger).name_rehearsal s
  · rw [hreport]
    exact h.map_name
  · intro place told report hp hskipped
    obtain ⟨s, rfl, hleaves⟩ := b.stepLeaves_of_zip job trigger steady state hp
    obtain ⟨reason, htold, hevents⟩ := hleaves.rehearsal_of_skipped hskipped
    rw [htold]
    refine ⟨rfl, reason, rfl, fun name text => ?_⟩
    rw [← hevents]
    exact (mem_eventsAt_iff rfl).symm
  · intro place told report hp hexecuted
    obtain ⟨s, rfl, hleaves⟩ := b.stepLeaves_of_zip job trigger steady state hp
    obtain ⟨command, htold, hcommand, hevents⟩ := hleaves.rehearsal_of_executed hexecuted
    rw [htold]
    refine ⟨rfl, command, rfl, hcommand, fun name shown => ?_⟩
    rw [← hevents]
    exact (mem_eventsAt_iff rfl).symm
  · intro succeed place told report hp
    obtain ⟨s, rfl, hleaves⟩ := b.stepLeaves_of_zip job trigger steady state hp
    have hm := List.mem_of_getElem? (List.getElem?_zip_eq_some.mp hp).2
    rw [hreport] at hm
    exact hleaves.wasExecuted_iff (h.status_ne_notRun succeed report hm)

def toolchainBuild : Build := ⟨"checks", [⟨"os", ["linux"]⟩], none, none, toolchainPlan, .initial "/work"⟩

theorem rehearse_toolchainBuild_agrees_with_run :
    failsBuilds.IsSteady ∧
      let job : Job := ⟨0, .ofList [("os", "linux")], .stable⟩
      let run := toolchainBuild.runJob .numbered job .push failsBuilds 0
      run.AgreesWith (toolchainBuild.rehearse job .push) toolchainPlan failsBuilds 0 ∧
        run.report.steps.map (·.status) = [.skipped, .succeeded, .failed, .notRun] ∧
        (toolchainBuild.rehearse job .push).map (·.command) =
          [none, some "fmt +stable", some "build linux", some "test"] := by
  have steady : failsBuilds.IsSteady := by
    intro state call message h
    cases h
  exact ⟨steady, toolchainBuild.rehearse_agrees_with_run .numbered _ .push steady 0, by decide, by decide⟩

end JobMatrix
