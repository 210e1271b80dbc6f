import JobMatrix.Proofs.StepEvents

/-!
The log of one job, read from its first event to its last. It goes through the steps of the plan in their order and
leaves none out before the first failure, and whoever reads it knows how every step went, what was run for it and
with which exit code, and how the job ended.
-/
namespace JobMatrix
variable {σ : Type} {c : JobContext} {runner : Runner σ} {plan : Plan} {index place : Nat} {state : σ}
  {trace : Trace σ} {s : PlannedStep} {r : StepReport} {events : List JobEvent}

/-- The events of the steps from a place on, in a plan of so many steps. -/
inductive IsStepLog (steps : Nat) : Nat → List JobEvent → Prop
  | finished : IsStepLog steps steps []
  | skipped {place : Nat} {name reason : String} {later : List JobEvent}
      (goes : IsStepLog steps (place + 1) later) :
      IsStepLog steps place (.stepSkipped place name reason :: later)
  | succeeded {place : Nat} {name command : String} {code : Option Int} {output later : List JobEvent}
      (lines : ∀ e ∈ output, ∃ line isError, e = .stepOutput place line isError)
      (goes : IsStepLog steps (place + 1) later) :
      IsStepLog steps place
        (.stepStarted place name command :: output ++ .stepCompleted place name .succeeded code :: later)
  | failed {place : Nat} {name command : String} {code : Option Int} {output : List JobEvent}
      (within : place < steps) (lines : ∀ e ∈ output, ∃ line isError, e = .stepOutput place line isError) :
      IsStepLog steps place (.stepStarted place name command :: output ++ [.stepCompleted place name .failed code])

def IsJobLog (steps : Nat) (events : List JobEvent) : Prop :=
  ∃ inner outcome, IsStepLog steps 0 inner ∧ events = .started steps :: inner ++ [.completed outcome]

structure StepAccount where
  status : StepStatus
  command : Option String
  exitCode : Option Int
  deriving DecidableEq

def StepAccount.untold : StepAccount := ⟨.notRun, none, none⟩

structure JobAccount where
  steps : List StepAccount
  outcome : Option Outcome
  deriving DecidableEq

def JobAccount.after (a : JobAccount) : JobEvent → JobAccount
  | .started steps => { a with steps := List.replicate steps .untold }
  | .stepSkipped place _ _ => { a with steps := a.steps.modify place ({ · with status := .skipped }) }
  | .stepStarted place _ command => { a with steps := a.steps.modify place ({ · with command := some command }) }
  | .stepOutput .. => a
  | .stepCompleted place _ status code =>
    { a with steps := a.steps.modify place ({ · with status := status, exitCode := code }) }
  | .completed outcome => { a with outcome := some outcome }

def replay (events : List JobEvent) : JobAccount := events.foldl JobAccount.after ⟨[], none⟩

def StepReport.account (r : StepReport) : StepAccount := ⟨r.status, r.command, r.exitCode⟩

theorem modify_append_cons {α : Type} (before : List α) (a : α) (after : List α) (f : α → α) :
    (before ++ a :: after).modify before.length f = before ++ f a :: after := by
  induction before with
  | nil => rfl
  | cons b before ih => simpa using ih

namespace JobContext

theorem isStepOutput_of_mem_outputEvents {lines : List OutputLine} {e : JobEvent}
    (h : e ∈ c.outputEvents place lines) : ∃ line isError, e = .stepOutput place line isError := by
  obtain ⟨line, -, rfl⟩ := List.mem_map.mp h
  exact ⟨_, _, rfl⟩

theorem Leaves.isStepLog (h : c.Leaves runner plan index state trace) :
    IsStepLog (index + plan.length) index trace.events := by
  induction h with
  | nil => exact .finished
  | @skipped s rest index state reason later excluded goes ih =>
    have hsteps : index + 1 + rest.length = index + (s :: rest).length := by simp only [List.length_cons]; omega
    rw [hsteps] at ih
    exact .skipped ih
  | @succeeded s rest index state next lines code errors later applies answered success goes ih =>
    have hsteps : index + 1 + rest.length = index + (s :: rest).length := by simp only [List.length_cons]; omega
    rw [hsteps] at ih
    simpa [stepEvents, success] using
      IsStepLog.succeeded (fun e he => isStepOutput_of_mem_outputEvents he) ih
  | @failed s rest index state next lines code errors applies answered failure =>
    have hwithin : index < index + (s :: rest).length := by simp only [List.length_cons]; omega
    simpa [stepEvents, failure] using
      IsStepLog.failed hwithin fun e he => isStepOutput_of_mem_outputEvents he

theorem foldl_outputEvents (a : JobAccount) (place : Nat) (lines : List OutputLine) :
    (c.outputEvents place lines).foldl JobAccount.after a = a := by
  induction lines with
  | nil => rfl
  | cons line lines ih => exact ih

theorem foldl_stepEvents (before after : List StepAccount) (outcome : Option Outcome) (s : PlannedStep)
    (lines : List OutputLine) (code : Option Int) (errors : String) :
    (c.stepEvents before.length s lines code).foldl JobAccount.after ⟨before ++ .untold :: after, outcome⟩ =
      ⟨before ++ (c.stepReport s code errors).account :: after, outcome⟩ := by
  rw [stepEvents, List.cons_append, List.foldl_cons, List.foldl_append, foldl_outputEvents]
  simp only [List.foldl_cons, List.foldl_nil, JobAccount.after, modify_append_cons]
  rfl

/-- The events of the steps that are left complete an account of the steps before them, by induction over the
plan. -/
theorem Leaves.foldl_events (h : c.Leaves runner plan index state trace) {before : List StepAccount}
    (hb : before.length = index) (outcome : Option Outcome) :
    trace.events.foldl JobAccount.after ⟨before ++ List.replicate plan.length .untold, outcome⟩ =
      ⟨before ++ trace.steps.map StepReport.account, outcome⟩ := by
  induction h generalizing before with
  | nil => rfl
  | @skipped s rest index state reason later excluded goes ih =>
    subst hb
    have hnext : (before ++ [StepAccount.mk .skipped none none]).length = before.length + 1 := List.length_append
    have hlater := ih hnext
    rw [List.length_cons, List.replicate_succ, List.foldl_cons, JobAccount.after, modify_append_cons]
    simpa [StepReport.account, StepReport.idle, StepAccount.untold] using hlater
  | @succeeded s rest index state next lines code errors later applies answered success goes ih =>
    subst hb
    have hnext : (before ++ [(c.stepReport s code errors).account]).length = before.length + 1 :=
      List.length_append
    have hlater := ih hnext
    rw [List.length_cons, List.replicate_succ, List.foldl_append, foldl_stepEvents before _ outcome s lines code errors]
    simpa using hlater
  | @failed s rest index state next lines code errors applies answered failure =>
    subst hb
    rw [List.length_cons, List.replicate_succ, foldl_stepEvents before _ outcome s lines code errors]
    simp [StepReport.account, StepReport.idle, StepAccount.untold, Function.comp_def, List.map_const']

theorem StepLeaves.mem_skipped_iff (h : c.StepLeaves place s r events) (name : String) :
    (∃ reason, .stepSkipped place name reason ∈ events) ↔ r.status = .skipped ∧ name = r.name := by
  cases h with
  | skipped excluded => simp [StepReport.idle]
  | @executed lines code errors applies =>
    cases hc : isSuccess code <;> simp [stepEvents, outputEvents, stepReport, hc]
  | notRun => simp [StepReport.idle]

theorem StepLeaves.mem_started_iff (h : c.StepLeaves place s r events) (name command : String) :
    .stepStarted place name command ∈ events ↔
      r.wasExecuted = true ∧ name = r.name ∧ some command = r.command := by
  cases h with
  | skipped | notRun => simp
  | executed applies =>
    rw [wasExecuted_stepReport]
    simp [stepEvents, outputEvents, stepReport]

theorem StepLeaves.mem_completed_iff (h : c.StepLeaves place s r events) (name : String) (status : StepStatus)
    (code : Option Int) :
    .stepCompleted place name status code ∈ events ↔
      r.wasExecuted = true ∧ name = r.name ∧ status = r.status ∧ code = r.exitCode := by
  cases h with
  | skipped | notRun => simp
  | executed applies =>
    rw [wasExecuted_stepReport]
    simp [stepEvents, outputEvents, stepReport]

theorem StepLeaves.eq_nil_iff (h : c.StepLeaves place s r events) : events = [] ↔ r.status = .notRun := by
  cases h with
  | skipped excluded => simp [StepReport.idle]
  | @executed lines code errors applies => cases hc : isSuccess code <;> simp [stepEvents, stepReport, hc]
  | notRun => simp [StepReport.idle]

end JobContext

/-- The log of a job has the form of a log, and to read it is to know the job's report: it says of every step
whether it was skipped, executed or not run at all, with which command and exit code, and what the outcome is. -/
structure JobRun.IsRetold (run : JobRun σ) (plan : Plan) : Prop where
  form : IsJobLog plan.length run.events
  replayed : replay run.events = ⟨run.report.steps.map StepReport.account, some run.report.outcome⟩
  complete : run.report.steps.length = plan.length
  skipped : ∀ (place : Nat) (r : StepReport), run.report.steps[place]? = some r → ∀ name,
    (∃ reason, .stepSkipped place name reason ∈ run.events) ↔ r.status = .skipped ∧ name = r.name
  started : ∀ (place : Nat) (r : StepReport), run.report.steps[place]? = some r → ∀ name command,
    .stepStarted place name command ∈ run.events ↔
      r.wasExecuted = true ∧ name = r.name ∧ some command = r.command
  completed : ∀ (place : Nat) (r : StepReport), run.report.steps[place]? = some r → ∀ name status code,
    .stepCompleted place name status code ∈ run.events ↔
      r.wasExecuted = true ∧ name = r.name ∧ status = r.status ∧ code = r.exitCode
  silent : ∀ (place : Nat) (r : StepReport), run.report.steps[place]? = some r →
    ((∀ e ∈ run.events, e.place? ≠ some place) ↔ r.status = .notRun)
  outcome : ∀ outcome, .completed outcome ∈ run.events ↔ outcome = run.report.outcome

theorem JobContext.run_isRetold (c : JobContext) (plan : Plan) {runner : Runner σ} (steady : runner.IsSteady)
    (state : σ) : (c.run plan runner state).IsRetold plan := by
  have h := c.leaves_runSteps steady plan 0 state
  have hreport : (c.run plan runner state).report = ⟨c.job, _, _⟩ := report_of_leaves h
  have hlength : (c.run plan runner state).report.steps.length = plan.length := by
    have hnames := congrArg List.length h.map_name
    simpa [hreport] using hnames
  have hstep : ∀ (place : Nat) (r : StepReport), (c.run plan runner state).report.steps[place]? = some r →
      ∃ s, c.StepLeaves place s r (eventsAt place (c.run plan runner state).events) := by
    intro place r hr
    have hlt : place < plan.length := hlength ▸ (List.getElem?_eq_some_iff.mp hr).1
    exact ⟨_, c.run_stepLeaves steady state (List.getElem?_eq_getElem hlt) hr⟩
  constructor
  · have hlog := h.isStepLog
    rw [Nat.zero_add] at hlog
    exact ⟨_, _, hlog, rfl⟩
  · have hfold := h.foldl_events (List.length_nil : ([] : List StepAccount).length = 0) none
    rw [hreport]
    simp only [List.nil_append] at hfold
    simp only [replay, run, List.cons_append, List.foldl_cons, List.foldl_append, JobAccount.after, hfold,
      List.foldl_nil]
  · exact hlength
  · intro place r hr name
    obtain ⟨s, hs⟩ := hstep place r hr
    rw [← hs.mem_skipped_iff]
    exact exists_congr fun reason => (mem_eventsAt_iff rfl).symm
  · intro place r hr name command
    obtain ⟨s, hs⟩ := hstep place r hr
    rw [← hs.mem_started_iff]
    exact (mem_eventsAt_iff rfl).symm
  · intro place r hr name status code
    obtain ⟨s, hs⟩ := hstep place r hr
    rw [← hs.mem_completed_iff]
    exact (mem_eventsAt_iff rfl).symm
  · intro place r hr
    obtain ⟨s, hs⟩ := hstep place r hr
    rw [← hs.eq_nil_iff, eventsAt, List.filter_eq_nil_iff]
    simp
  · intro outcome
    have hinner : .completed outcome ∉ (c.runSteps runner plan 0 state).events := by
      intro hm
      obtain ⟨place, hp, -⟩ := h.le_place hm
      cases hp
    rw [hreport]
    simpa [run] using fun hm => absurd hm hinner

theorem run_toolchainPlan_isRetold :
    failsBuilds.IsSteady ∧
      let c : JobContext := ⟨.initial "/work", ⟨0, .ofList [("os", "linux")], .stable⟩, .push, panicText 1⟩
      (c.run toolchainPlan failsBuilds 0).IsRetold toolchainPlan ∧
        replay (c.run toolchainPlan failsBuilds 0).events =
          ⟨[⟨.skipped, none, none⟩, ⟨.succeeded, some "fmt +stable", some 0⟩,
            ⟨.failed, some "build linux", some 101⟩, ⟨.notRun, none, none⟩], some (.failed "Build" (some 101))⟩ := by
  have steady : failsBuilds.IsSteady := by
    intro state call message h
    cases h
  exact ⟨steady, JobContext.run_isRetold _ toolchainPlan steady 0, by decide⟩

end JobMatrix
