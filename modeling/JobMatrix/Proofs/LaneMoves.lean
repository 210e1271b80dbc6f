import JobMatrix.Run.Interleaving
import Mathlib.Data.List.Basic

/-!
One job on its way through a run, move by move. If its runner answers by a function, the report in which the job
will end is known from the start, and no move changes it.
-/
namespace JobMatrix.JobContext
variable {c : JobContext} {plan : Plan} {reply : Reply} {phase next : Phase} {events : List JobEvent}
  {answer : Invocation → Reply}

inductive Moves (c : JobContext) (plan : Plan) (reply : Reply) : Phase → Phase → List JobEvent → Prop
  | begins : Moves c plan reply .admitted (.ready [] plan) [.started plan.length]
  | skips {done : List StepReport} {s : PlannedStep} {ahead : Plan} {reason : SkipReason}
      (excluded : c.skipReason? s = some reason) :
      Moves c plan reply (.ready done (s :: ahead)) (.ready (done ++ [.idle s.step.name .skipped]) ahead)
        [.stepSkipped done.length s.step.name reason.message]
  | asks {done : List StepReport} {s : PlannedStep} {ahead : Plan} (applies : c.skipReason? s = none) :
      Moves c plan reply (.ready done (s :: ahead)) (.asked done s ahead reply)
        [.stepStarted done.length s.step.name (c.shownCommand s)]
  | writes {done : List StepReport} {s : PlannedStep} {ahead : Plan} {line : OutputLine}
      {lines : List OutputLine} {ending : Ending} :
      Moves c plan reply (.asked done s ahead ⟨line :: lines, ending⟩) (.asked done s ahead ⟨lines, ending⟩)
        (c.outputEvents done.length [line])
  | succeeds {done : List StepReport} {s : PlannedStep} {ahead : Plan} {code : Option Int} {errors : String}
      (success : isSuccess code = true) :
      Moves c plan reply (.asked done s ahead ⟨[], .exited code errors⟩)
        (.ready (done ++ [c.stepReport s code errors]) ahead)
        [.stepCompleted done.length s.step.name (c.stepReport s code errors).status code]
  | fails {done : List StepReport} {s : PlannedStep} {ahead : Plan} {code : Option Int} {errors : String}
      (failure : isSuccess code = false) :
      Moves c plan reply (.asked done s ahead ⟨[], .exited code errors⟩)
        (.stopped (done ++ c.stepReport s code errors :: ahead.map fun t => .idle t.step.name .notRun)
          (.failed s.step.name code))
        [.stepCompleted done.length s.step.name (c.stepReport s code errors).status code]
  | crashes {done : List StepReport} {s : PlannedStep} {ahead : Plan} {message : Option String} :
      Moves c plan reply (.asked done s ahead ⟨[], .crashed message⟩) (.stopped [] (.crashed message)) []
  | ends {done : List StepReport} : Moves c plan reply (.ready done []) (.stopped done .completed) []
  | tells {steps : List StepReport} {stop : Stop} :
      Moves c plan reply (.stopped steps stop) (.told (c.report plan steps stop))
        [.completed (c.outcome stop)]

theorem moves_of_next? (h : c.next? plan reply phase = some (next, events)) :
    c.Moves plan reply phase next events := by
  cases phase with
  | waiting | told | gone => cases h
  | admitted => cases h; exact .begins
  | ready done ahead =>
    cases ahead with
    | nil => cases h; exact .ends
    | cons s ahead =>
      cases hg : c.skipReason? s with
      | some reason =>
        simp only [next?, hg, Option.some.injEq, Prod.mk.injEq] at h
        obtain ⟨rfl, rfl⟩ := h
        exact .skips hg
      | none =>
        simp only [next?, hg, Option.some.injEq, Prod.mk.injEq] at h
        obtain ⟨rfl, rfl⟩ := h
        exact .asks hg
  | asked done s ahead given =>
    rcases given with ⟨_ | ⟨line, lines⟩, ending⟩
    · cases ending with
      | crashed message => cases h; exact .crashes
      | exited code errors =>
        cases hs : isSuccess code with
        | true =>
          simp only [next?, hs, if_true, Option.some.injEq, Prod.mk.injEq] at h
          obtain ⟨rfl, rfl⟩ := h
          exact .succeeds hs
        | false =>
          simp only [next?, hs, Option.some.injEq, Prod.mk.injEq] at h
          obtain ⟨rfl, rfl⟩ := h
          exact .fails hs
    · cases h; exact .writes
  | stopped steps stop => cases h; exact .tells

theorem next?_of_moves (h : c.Moves plan reply phase next events) :
    c.next? plan reply phase = some (next, events) := by
  cases h with
  | skips excluded => simp [next?, excluded]
  | asks applies => simp [next?, applies]
  | succeeds success => simp [next?, success]
  | fails failure => simp [next?, failure]
  | _ => rfl

theorem exists_moves_of_hasPermit (c : JobContext) (plan : Plan) (reply : Reply)
    (h : phase.hasPermit = true) :
    (∃ report, phase = .told report) ∨ ∃ next events, c.Moves plan reply phase next events := by
  cases phase with
  | waiting | gone => cases h
  | told report => exact .inl ⟨report, rfl⟩
  | admitted => exact .inr ⟨_, _, .begins⟩
  | stopped steps stop => exact .inr ⟨_, _, .tells⟩
  | ready done ahead =>
    cases ahead with
    | nil => exact .inr ⟨_, _, .ends⟩
    | cons s ahead =>
      cases hg : c.skipReason? s with
      | some reason => exact .inr ⟨_, _, .skips hg⟩
      | none => exact .inr ⟨_, _, .asks hg⟩
  | asked done s ahead given =>
    rcases given with ⟨_ | ⟨line, lines⟩, ending⟩
    · cases ending with
      | crashed message => exact .inr ⟨_, _, .crashes⟩
      | exited code errors =>
        cases hs : isSuccess code with
        | true => exact .inr ⟨_, _, .succeeds hs⟩
        | false => exact .inr ⟨_, _, .fails hs⟩
    · exact .inr ⟨_, _, .writes⟩

theorem Moves.hasPermit (h : c.Moves plan reply phase next events) :
    phase.hasPermit = true ∧ next.hasPermit = true := by
  cases h <;> exact ⟨rfl, rfl⟩

theorem Moves.ne_gone (h : c.Moves plan reply phase next events) : phase ≠ .gone ∧ next ≠ .gone := by
  cases h <;> exact ⟨Phase.noConfusion, Phase.noConfusion⟩

/-- The report in which a job ends when some steps are done and the others are still ahead. -/
def reportFrom (c : JobContext) (plan : Plan) (answer : Invocation → Reply) (done : List StepReport)
    (ahead : Plan) : JobReport :=
  let later := c.runSteps (.ofFunction answer) ahead done.length ()
  c.report plan (done ++ later.steps) later.stop

def finalReport (c : JobContext) (plan : Plan) (answer : Invocation → Reply) : Phase → JobReport
  | .waiting | .admitted | .gone => c.reportFrom plan answer [] plan
  | .ready done ahead => c.reportFrom plan answer done ahead
  | .asked done s ahead reply =>
    match reply.ending with
    | .exited code errors =>
      if isSuccess code then c.reportFrom plan answer (done ++ [c.stepReport s code errors]) ahead
      else
        c.report plan (done ++ c.stepReport s code errors :: ahead.map fun t => .idle t.step.name .notRun)
          (.failed s.step.name code)
    | .crashed message => c.report plan [] (.crashed message)
  | .stopped steps stop => c.report plan steps stop
  | .told report => report

theorem reportFrom_nil (c : JobContext) (plan : Plan) (answer : Invocation → Reply) (done : List StepReport) :
    c.reportFrom plan answer done [] = c.report plan done .completed := by
  simp [reportFrom, runSteps]

theorem reportFrom_skipped {s : PlannedStep} {reason : SkipReason} (excluded : c.skipReason? s = some reason)
    (done : List StepReport) (ahead : Plan) :
    c.reportFrom plan answer done (s :: ahead) =
      c.reportFrom plan answer (done ++ [.idle s.step.name .skipped]) ahead := by
  simp [reportFrom, runSteps, excluded]

theorem reportFrom_applies {s : PlannedStep} (applies : c.skipReason? s = none) (done : List StepReport)
    (ahead : Plan) :
    c.reportFrom plan answer done (s :: ahead) =
      c.finalReport plan answer (.asked done s ahead (answer (c.invocation s))) := by
  cases he : (answer (c.invocation s)).ending with
  | crashed message =>
    simp [reportFrom, finalReport, runSteps, applies, Runner.ofFunction, he, report]
  | exited code errors =>
    cases hs : isSuccess code <;>
      simp [reportFrom, finalReport, runSteps, applies, Runner.ofFunction, he, hs]

theorem Moves.finalReport_eq (h : c.Moves plan reply phase next events)
    (given : ∀ call, c.nextCall? phase = some call → reply = answer call) :
    c.finalReport plan answer next = c.finalReport plan answer phase := by
  cases h with
  | begins => rfl
  | skips excluded => exact (reportFrom_skipped excluded _ _).symm
  | @asks done s ahead applies =>
    have hr : reply = answer (c.invocation s) := given _ (by simp [nextCall?, applies])
    rw [hr]
    exact (reportFrom_applies applies _ _).symm
  | writes => rfl
  | succeeds success => simp [finalReport, success]
  | fails failure => simp [finalReport, failure]
  | crashes => rfl
  | ends => exact (c.reportFrom_nil plan answer _).symm
  | tells => rfl

theorem report_run (c : JobContext) (plan : Plan) (answer : Invocation → Reply) :
    (c.run plan (.ofFunction answer) ()).report = c.reportFrom plan answer [] plan := rfl

theorem stop_eq_crashed_iff (c : JobContext) (answer : Invocation → Reply) (plan : Plan) (index : Nat)
    (message : Option String) :
    (c.runSteps (.ofFunction answer) plan index ()).stop = .crashed message ↔
      ∃ call ∈ (c.runSteps (.ofFunction answer) plan index ()).calls,
        (answer call).ending = .crashed message := by
  induction plan generalizing index with
  | nil => simp [runSteps]
  | cons s rest ih =>
    cases hg : c.skipReason? s with
    | some reason => simpa [runSteps, hg] using ih (index + 1)
    | none =>
      cases he : (answer (c.invocation s)).ending with
      | crashed text => simp [runSteps, hg, Runner.ofFunction, he]
      | exited code errors =>
        cases hs : isSuccess code with
        | true => simp [runSteps, hg, Runner.ofFunction, he, hs, ih (index + 1)]
        | false => simp [runSteps, hg, Runner.ofFunction, he, hs]

theorem report_run_of_crashed {call : Invocation} {message : Option String}
    (hc : call ∈ (c.run plan (.ofFunction answer) ()).calls)
    (hm : (answer call).ending = .crashed message) :
    (c.run plan (.ofFunction answer) ()).report =
      ⟨c.job, .aborted (c.crashText message), plan.map fun s => .idle s.step.name .notRun⟩ := by
  have hs := (c.stop_eq_crashed_iff answer plan 0 message).mpr ⟨call, hc, hm⟩
  simp only [run, hs, report, outcome]

theorem report_run_of_not_crashed
    (h : ∀ call ∈ (c.run plan (.ofFunction answer) ()).calls, ∀ message,
      (answer call).ending ≠ .crashed message) :
    (c.run plan (.ofFunction answer) ()).report =
      let trace := c.runSteps (.ofFunction answer) plan 0 ()
      ⟨c.job, c.outcome trace.stop, trace.steps⟩ := by
  cases hs : (c.runSteps (.ofFunction answer) plan 0 ()).stop with
  | crashed message =>
    obtain ⟨call, hc, hm⟩ := (c.stop_eq_crashed_iff answer plan 0 message).mp hs
    exact absurd hm (h call hc message)
  | completed | failed => simp only [run, hs, report]

theorem runSteps_withText {σ : Type} (c : JobContext) (text : Option String → String) (runner : Runner σ) (plan : Plan)
    (index : Nat) (state : σ) :
    ({ c with crashText := text } : JobContext).runSteps runner plan index state =
      c.runSteps runner plan index state := by
  induction plan generalizing index state with
  | nil => rfl
  | cons s rest ih =>
    simp only [runSteps, ih]
    rfl

end JobContext

def JobReport.withoutReason (r : JobReport) : JobReport :=
  match r.outcome with
  | .aborted _ => { r with outcome := .aborted "" }
  | .success | .failed .. => r

/-- The text for a crash shows in the reason of an abortion and nowhere else in a report. -/
theorem JobContext.withoutReason_run {σ : Type} (c : JobContext) (text : Option String → String) (plan : Plan)
    (runner : Runner σ) (state : σ) :
    (({ c with crashText := text } : JobContext).run plan runner state).report.withoutReason =
      (c.run plan runner state).report.withoutReason := by
  simp only [run, runSteps_withText]
  cases (c.runSteps runner plan 0 state).stop <;> rfl

end JobMatrix
