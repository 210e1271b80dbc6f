import JobMatrix.Run.JobRun
import Mathlib.Data.List.Basic

/-!
The steps of one job, run by a runner that does not crash. What they leave is derived step by step, in four
ways: the plan is at its end, or its first step is skipped, succeeds, or fails. Each fact about the reports,
the invocations and the outcome of a whole job is an induction over these derivations.
-/
namespace JobMatrix
variable {σ : Type} {c : JobContext} {runner : Runner σ} {plan : Plan} {index : Nat} {state : σ}
  {trace : Trace σ}

/-- A runner that answers every invocation by an exit. -/
def Runner.IsSteady (runner : Runner σ) : Prop :=
  ∀ state call message, (runner state call).1.ending ≠ .crashed message

def Runner.answers (runner : Runner σ) : σ → List Invocation → List Reply
  | _, [] => []
  | state, call :: calls => (runner state call).1 :: answers runner (runner state call).2 calls

def Reply.exitCode? (reply : Reply) : Option Int :=
  match reply.ending with
  | .exited code _ => code
  | .crashed _ => none

def StepReport.wasExecuted (r : StepReport) : Bool := r.status == .succeeded || r.status == .failed

structure StepReport.IsConsistent (r : StepReport) : Prop where
  success : r.status = .succeeded ↔ r.exitCode = some 0
  command : r.command.isSome = true ↔ r.wasExecuted = true
  error : r.error.isSome = true → r.status = .failed

def StopsAtFailure (statuses : List StepStatus) : Prop :=
  ∃ before after, statuses = before ++ after ∧ (∀ s ∈ before, s = .succeeded ∨ s = .skipped) ∧
    (after = [] ∨ ∃ n, after = .failed :: List.replicate n .notRun)

/-- What the steps of a plan leave when no invocation crashes. -/
inductive JobContext.Leaves (c : JobContext) (runner : Runner σ) : Plan → Nat → σ → Trace σ → Prop
  | nil {index : Nat} {state : σ} : Leaves c runner [] index state ⟨[], [], [], .completed, state⟩
  | skipped {s : PlannedStep} {rest : Plan} {index : Nat} {state : σ} {reason : SkipReason} {later : Trace σ}
      (excluded : c.skipReason? s = some reason) (goes : Leaves c runner rest (index + 1) state later) :
      Leaves c runner (s :: rest) index state
        { later with
          steps := .idle s.step.name .skipped :: later.steps
          events := .stepSkipped index s.step.name reason.message :: later.events }
  | succeeded {s : PlannedStep} {rest : Plan} {index : Nat} {state next : σ} {lines : List OutputLine}
      {code : Option Int} {errors : String} {later : Trace σ} (applies : c.skipReason? s = none)
      (answered : runner state (c.invocation s) = (⟨lines, .exited code errors⟩, next))
      (success : isSuccess code = true) (goes : Leaves c runner rest (index + 1) next later) :
      Leaves c runner (s :: rest) index state
        { later with
          steps := c.stepReport s code errors :: later.steps
          events := c.stepEvents index s lines code ++ later.events
          calls := c.invocation s :: later.calls }
  | failed {s : PlannedStep} {rest : Plan} {index : Nat} {state next : σ} {lines : List OutputLine}
      {code : Option Int} {errors : String} (applies : c.skipReason? s = none)
      (answered : runner state (c.invocation s) = (⟨lines, .exited code errors⟩, next))
      (failure : isSuccess code = false) :
      Leaves c runner (s :: rest) index state
        ⟨c.stepReport s code errors :: rest.map fun t => .idle t.step.name .notRun,
          c.stepEvents index s lines code, [c.invocation s], .failed s.step.name code, next⟩

@[simp]
theorem StepReport.wasExecuted_idle (name : String) (status : StepStatus) :
    (StepReport.idle name status).wasExecuted = (status == .succeeded || status == .failed) := rfl

theorem StepReport.isConsistent_idle (name : String) {status : StepStatus} (hs : status ≠ .succeeded)
    (hf : status ≠ .failed) : (StepReport.idle name status).IsConsistent :=
  ⟨by simp [idle, hs], by simp [idle, wasExecuted, hs, hf], by simp [idle]⟩

namespace JobContext

@[simp]
theorem wasExecuted_stepReport (c : JobContext) (s : PlannedStep) (code : Option Int) (errors : String) :
    (c.stepReport s code errors).wasExecuted = true := by
  cases h : isSuccess code <;> simp [stepReport, StepReport.wasExecuted, h]

theorem isConsistent_stepReport (c : JobContext) (s : PlannedStep) (code : Option Int) (errors : String) :
    (c.stepReport s code errors).IsConsistent := by
  constructor
  · by_cases h : code = some 0 <;> simp [stepReport, isSuccess, h]
  · simp only [wasExecuted_stepReport, iff_true]
    rfl
  · by_cases h : code = some 0 <;> simp [stepReport, isSuccess, h]

theorem leaves_or_crashes (c : JobContext) (runner : Runner σ) (plan : Plan) (index : Nat) (state : σ) :
    c.Leaves runner plan index state (c.runSteps runner plan index state) ∨
      ∃ asked call message, (runner asked call).1.ending = .crashed message ∧
        (c.runSteps runner plan index state).stop = .crashed message := by
  induction plan generalizing index state with
  | nil => exact .inl .nil
  | cons s rest ih =>
    cases hg : c.skipReason? s with
    | some reason =>
      simp only [runSteps, hg]
      exact (ih (index + 1) state).imp_left (.skipped hg)
    | none =>
      rcases ha : runner state (c.invocation s) with ⟨⟨lines, ending⟩, next⟩
      cases ending with
      | crashed message =>
        simp only [runSteps, hg, ha]
        exact .inr ⟨state, c.invocation s, message, by rw [ha], rfl⟩
      | exited code errors =>
        cases hs : isSuccess code with
        | true =>
          simp only [runSteps, hg, ha, hs, if_true]
          exact (ih (index + 1) next).imp_left (.succeeded hg ha hs)
        | false =>
          simp only [runSteps, hg, ha, hs]
          exact .inl (.failed hg ha hs)

theorem leaves_runSteps (steady : runner.IsSteady) (plan : Plan) (index : Nat) (state : σ) :
    c.Leaves runner plan index state (c.runSteps runner plan index state) :=
  (c.leaves_or_crashes runner plan index state).resolve_right fun ⟨asked, call, message, crashed, _⟩ =>
    steady asked call message crashed

namespace Leaves

theorem map_name (h : c.Leaves runner plan index state trace) :
    trace.steps.map (·.name) = plan.map (·.step.name) := by
  induction h with
  | nil => rfl
  | skipped excluded goes ih => simp [StepReport.idle, ih]
  | succeeded applies answered success goes ih => simp [stepReport, ih]
  | failed applies answered failure => simp [stepReport, StepReport.idle]

theorem stopsAtFailure (h : c.Leaves runner plan index state trace) :
    StopsAtFailure (trace.steps.map (·.status)) := by
  induction h with
  | nil => exact ⟨[], [], rfl, by simp, .inl rfl⟩
  | skipped excluded goes ih =>
    obtain ⟨before, after, hs, hb, ha⟩ := ih
    refine ⟨.skipped :: before, after, by simp [StepReport.idle, hs], ?_, ha⟩
    simpa using hb
  | succeeded applies answered success goes ih =>
    obtain ⟨before, after, hs, hb, ha⟩ := ih
    refine ⟨.succeeded :: before, after, by simp [stepReport, success, hs], ?_, ha⟩
    simpa using hb
  | @failed s rest index state next lines code errors applies answered failure =>
    refine ⟨[], .failed :: List.replicate rest.length .notRun, ?_, by simp, .inr ⟨rest.length, rfl⟩⟩
    simp [stepReport, failure, StepReport.idle, Function.comp_def, List.map_const']

theorem skipped_iff (h : c.Leaves runner plan index state trace) {s : PlannedStep} {r : StepReport}
    (hp : (s, r) ∈ plan.zip trace.steps) (hr : r.status ≠ .notRun) :
    r.status = .skipped ↔ (c.skipReason? s).isSome = true := by
  induction h with
  | nil => simp at hp
  | skipped excluded goes ih =>
    rcases List.mem_cons.mp hp with heq | hlater
    · cases heq
      simp [StepReport.idle, excluded]
    · exact ih hlater
  | succeeded applies answered success goes ih =>
    rcases List.mem_cons.mp hp with heq | hlater
    · cases heq
      simp [stepReport, success, applies]
    · exact ih hlater
  | failed applies answered failure =>
    rcases List.mem_cons.mp hp with heq | hlater
    · cases heq
      simp [stepReport, failure, applies]
    · obtain ⟨t, -, ht⟩ := List.mem_map.mp (List.of_mem_zip hlater).2
      exact absurd (by rw [← ht]; rfl) hr

theorem calls_eq (h : c.Leaves runner plan index state trace) :
    trace.calls = ((plan.zip trace.steps).filter (·.2.wasExecuted)).map (c.invocation ·.1) := by
  induction h with
  | nil => rfl
  | skipped excluded goes ih => simpa using ih
  | succeeded applies answered success goes ih => simp [ih]
  | @failed s rest index state next lines code errors applies answered failure =>
    have hidle : (rest.zip (rest.map fun t => StepReport.idle t.step.name .notRun)).filter
        (·.2.wasExecuted) = [] := by
      rw [← List.map_prod_left_eq_zip]
      simp
    rw [List.zip_cons_cons, List.filter_cons_of_pos (by simp), hidle]
    rfl

theorem state_eq (h : c.Leaves runner plan index state trace) :
    trace.state = trace.calls.foldl (fun s call => (runner s call).2) state := by
  induction h with
  | nil => rfl
  | skipped excluded goes ih => exact ih
  | succeeded applies answered success goes ih => simp [answered, ih]
  | failed applies answered failure => simp [answered]

theorem exitCodes_eq (h : c.Leaves runner plan index state trace) :
    (trace.steps.filter (·.wasExecuted)).map (·.exitCode) =
      (runner.answers state trace.calls).map Reply.exitCode? := by
  induction h with
  | nil => rfl
  | skipped excluded goes ih => simpa using ih
  | succeeded applies answered success goes ih =>
    rw [List.filter_cons_of_pos (by simp), List.map_cons, ih]
    simp [stepReport, Runner.answers, answered, Reply.exitCode?]
  | @failed s rest index state next lines code errors applies answered failure =>
    have hidle : (rest.map fun t => StepReport.idle t.step.name .notRun).filter (·.wasExecuted) = [] := by
      simp
    rw [List.filter_cons_of_pos (by simp), hidle]
    simp [stepReport, Runner.answers, answered, Reply.exitCode?]

theorem report_isConsistent (h : c.Leaves runner plan index state trace) {r : StepReport}
    (hr : r ∈ trace.steps) : r.IsConsistent := by
  induction h with
  | nil => simp at hr
  | skipped excluded goes ih =>
    rcases List.mem_cons.mp hr with rfl | hlater
    · exact StepReport.isConsistent_idle _ (by decide) (by decide)
    · exact ih hlater
  | succeeded applies answered success goes ih =>
    rcases List.mem_cons.mp hr with rfl | hlater
    · exact isConsistent_stepReport ..
    · exact ih hlater
  | failed applies answered failure =>
    rcases List.mem_cons.mp hr with rfl | hlater
    · exact isConsistent_stepReport ..
    · obtain ⟨t, -, rfl⟩ := List.mem_map.mp hlater
      exact StepReport.isConsistent_idle _ (by decide) (by decide)

theorem stop_eq (h : c.Leaves runner plan index state trace) :
    (trace.stop = .completed ∧ ∀ r ∈ trace.steps, r.status ≠ .failed) ∨
      ∃ r ∈ trace.steps, r.status = .failed ∧ r.exitCode ≠ some 0 ∧
        trace.stop = .failed r.name r.exitCode := by
  induction h with
  | nil => exact .inl ⟨rfl, by simp⟩
  | skipped excluded goes ih =>
    rcases ih with ⟨hc, hn⟩ | ⟨r, hr, hf⟩
    · exact .inl ⟨hc, by simpa [StepReport.idle] using hn⟩
    · exact .inr ⟨r, List.mem_cons_of_mem _ hr, hf⟩
  | succeeded applies answered success goes ih =>
    rcases ih with ⟨hc, hn⟩ | ⟨r, hr, hf⟩
    · exact .inl ⟨hc, by simpa [stepReport, success] using hn⟩
    · exact .inr ⟨r, List.mem_cons_of_mem _ hr, hf⟩
  | failed applies answered failure =>
    refine .inr ⟨_, List.mem_cons_self, ?_⟩
    have hcode := failure
    simp only [isSuccess, beq_eq_false_iff_ne] at hcode
    simp [stepReport, failure, hcode]

end Leaves
end JobContext

/-- A run of a job keeps to the plan: its report has the plan's steps, which stop at the first failure and are
skipped by their gates alone; the runner is asked for the executed steps, once each and in order, and the exit
codes are its answers; the outcome is that of the failed step, if there is one. -/
structure JobRun.FollowsPlan (run : JobRun σ) (c : JobContext) (plan : Plan) (runner : Runner σ)
    (state : σ) : Prop where
  job : run.report.job = c.job
  names : run.report.steps.map (·.name) = plan.map (·.step.name)
  order : StopsAtFailure (run.report.steps.map (·.status))
  skips : ∀ s r, (s, r) ∈ plan.zip run.report.steps → r.status ≠ .notRun →
    (r.status = .skipped ↔ (c.skipReason? s).isSome = true)
  calls : run.calls = ((plan.zip run.report.steps).filter (·.2.wasExecuted)).map (c.invocation ·.1)
  lastState : run.state = run.calls.foldl (fun s call => (runner s call).2) state
  exitCodes : (run.report.steps.filter (·.wasExecuted)).map (·.exitCode) =
    (runner.answers state run.calls).map Reply.exitCode?
  consistent : ∀ r ∈ run.report.steps, r.IsConsistent
  success : run.report.outcome = .success ↔ ∀ r ∈ run.report.steps, r.status ≠ .failed
  failure : run.report.outcome ≠ .success → ∃ r ∈ run.report.steps, r.status = .failed ∧
    r.exitCode ≠ some 0 ∧ run.report.outcome = .failed r.name r.exitCode

theorem JobContext.report_of_leaves (h : c.Leaves runner plan index state trace) :
    c.report plan trace.steps trace.stop = ⟨c.job, c.outcome trace.stop, trace.steps⟩ := by
  rcases h.stop_eq with ⟨hs, -⟩ | ⟨r, -, -, -, hs⟩ <;> rw [hs] <;> rfl

theorem JobContext.run_followsPlan (c : JobContext) (plan : Plan) {runner : Runner σ}
    (steady : runner.IsSteady) (state : σ) :
    (c.run plan runner state).FollowsPlan c plan runner state := by
  have h := c.leaves_runSteps steady plan 0 state
  have hreport : (c.run plan runner state).report = ⟨c.job, _, _⟩ := report_of_leaves h
  constructor
  · rw [hreport]
  · rw [hreport]
    exact h.map_name
  · rw [hreport]
    exact h.stopsAtFailure
  · rw [hreport]
    exact fun s r => h.skipped_iff
  · rw [hreport]
    exact h.calls_eq
  · exact h.state_eq
  · rw [hreport]
    exact h.exitCodes_eq
  · rw [hreport]
    exact fun r => h.report_isConsistent
  · rw [hreport]
    rcases h.stop_eq with ⟨hs, hn⟩ | ⟨r, hr, hf, -, hs⟩
    · exact ⟨fun _ => hn, fun _ => by rw [hs]; rfl⟩
    · simp only [hs, outcome, reduceCtorEq, false_iff, not_forall]
      exact ⟨r, hr, not_not_intro hf⟩
  · rw [hreport]
    intro hne
    rcases h.stop_eq with ⟨hs, -⟩ | ⟨r, hr, hf, hcode, hs⟩
    · rw [hs] at hne
      exact absurd rfl hne
    · exact ⟨r, hr, hf, hcode, by rw [hs]; rfl⟩

def toolchainPlan : Plan :=
  [⟨⟨"Install", "", some ⟨some .pinned, .empty, []⟩, none, .empty, none⟩, ⟨[.literal "rustup install"]⟩⟩,
    ⟨⟨"Format", "", none, none, .empty, none⟩, ⟨[.literal "fmt +", .placeholder .toolchain]⟩⟩,
    ⟨⟨"Build", "", none, none, .empty, none⟩, ⟨[.literal "build ", .placeholder (.matrix "os")]⟩⟩,
    ⟨⟨"Test", "", none, none, .empty, none⟩, ⟨[.literal "test"]⟩⟩]

def failsBuilds : Runner Nat := fun n call =>
  (⟨[], .exited (some (if call.command = "build linux" then 101 else 0)) "no space left"⟩, n + 1)

theorem run_toolchainPlan_followsPlan :
    failsBuilds.IsSteady ∧
      let c : JobContext := ⟨.initial "/work", ⟨0, .ofList [("os", "linux")], .stable⟩, .push, panicText 1⟩
      (c.run toolchainPlan failsBuilds 0).FollowsPlan c toolchainPlan failsBuilds 0 ∧
        (c.run toolchainPlan failsBuilds 0).report.steps.map (·.status) =
          [.skipped, .succeeded, .failed, .notRun] ∧
        (c.run toolchainPlan failsBuilds 0).calls.map (fun call => (call.step, call.command)) =
          [("Format", "fmt +stable"), ("Build", "build linux")] ∧
        (c.run toolchainPlan failsBuilds 0).state = 2 ∧
        (c.run toolchainPlan failsBuilds 0).report.outcome = .failed "Build" (some 101) := by
  have steady : failsBuilds.IsSteady := by
    intro state call message h
    cases h
  refine ⟨steady, JobContext.run_followsPlan _ toolchainPlan steady 0, ?_, ?_, ?_, ?_⟩
  · decide +kernel
  · decide +kernel
  · decide +kernel
  · decide +kernel

end JobMatrix
