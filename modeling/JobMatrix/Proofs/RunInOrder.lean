import JobMatrix.Proofs.RunErrors

/-!
A run of one job after the other is one of the courses that the run of the jobs side by side can take: each job in its
turn takes a permit, makes all its moves and gives the permit back, whatever the runner does with its state.
-/
namespace JobMatrix
variable {σ : Type} {b : Build} {tasks : Tasks} {trigger : Trigger} {may : Invocation → Reply → Prop} {jobs : List Job}
  {s : RunState} {c : JobContext} {plan : Plan} {phase mid next : Phase} {events more : List JobEvent}

def Runner.Gives (runner : Runner σ) (call : Invocation) (reply : Reply) : Prop :=
  ∃ state, (runner state call).1 = reply

/-- What a job does in some moves, each with a reply that may be given. -/
inductive JobContext.Goes (c : JobContext) (plan : Plan) (may : Invocation → Reply → Prop) :
    Phase → Phase → List JobEvent → Prop
  | refl {phase : Phase} : Goes c plan may phase phase []
  | step {phase mid next : Phase} {reply : Reply} {events more : List JobEvent}
      (goes : c.Moves plan reply phase mid events)
      (given : ∀ call, c.nextCall? phase = some call → may call reply) (later : Goes c plan may mid next more) :
      Goes c plan may phase next (events ++ more)

namespace JobContext

theorem Goes.trans (h : c.Goes plan may phase mid events) (later : c.Goes plan may mid next more) :
    c.Goes plan may phase next (events ++ more) := by
  induction h with
  | refl => exact later
  | step goes given rest ih =>
    rw [List.append_assoc]
    exact .step goes given (ih later)

theorem Moves.goes (h : c.Moves plan .silent phase next events) (unasked : c.nextCall? phase = none) :
    c.Goes plan may phase next events := by
  simpa using Goes.step h (by simp [unasked]) .refl

theorem goes_asks {s : PlannedStep} {reply : Reply} (applies : c.skipReason? s = none)
    (given : may (c.invocation s) reply) (plan : Plan) (done : List StepReport) (ahead : Plan) :
    c.Goes plan may (.ready done (s :: ahead)) (.asked done s ahead reply)
      [.stepStarted done.length s.step.name (c.shownCommand s)] := by
  have hcall : ∀ call, c.nextCall? (.ready done (s :: ahead)) = some call → may call reply := by
    simp [nextCall?, applies, given]
  simpa using Goes.step (.asks applies) hcall .refl

theorem goes_lines (c : JobContext) (plan : Plan) (may : Invocation → Reply → Prop) (done : List StepReport)
    (s : PlannedStep) (ahead : Plan) (lines : List OutputLine) (ending : Ending) :
    c.Goes plan may (.asked done s ahead ⟨lines, ending⟩) (.asked done s ahead ⟨[], ending⟩)
      (c.outputEvents done.length lines) := by
  induction lines with
  | nil => exact .refl
  | cons line lines ih => exact (Moves.writes.goes rfl).trans ih

theorem goes_steps (c : JobContext) (plan : Plan) (runner : Runner σ) (ahead : Plan) (done : List StepReport)
    (state : σ) :
    let trace := c.runSteps runner ahead done.length state
    ∃ steps, c.Goes plan runner.Gives (.ready done ahead) (.stopped steps trace.stop) trace.events ∧
      c.report plan steps trace.stop = c.report plan (done ++ trace.steps) trace.stop := by
  induction ahead generalizing done state with
  | nil => exact ⟨done, Moves.ends.goes rfl, by simp [runSteps]⟩
  | cons s rest ih =>
    cases hg : c.skipReason? s with
    | some reason =>
      have hnext := ih (done ++ [.idle s.step.name .skipped]) state
      rw [List.length_append, List.length_singleton] at hnext
      obtain ⟨steps, hgoes, hreport⟩ := hnext
      have hskip : c.Goes plan runner.Gives (.ready done (s :: rest)) _ _ :=
        (Moves.skips hg).goes (by simp [nextCall?, hg])
      simp only [runSteps, hg]
      refine ⟨steps, hskip.trans hgoes, ?_⟩
      rw [hreport, List.append_assoc, List.singleton_append]
    | none =>
      rcases ha : runner state (c.invocation s) with ⟨⟨lines, ending⟩, after⟩
      have hasked := (goes_asks hg ⟨state, congrArg Prod.fst ha⟩ plan done rest).trans
        (c.goes_lines plan runner.Gives done s rest lines ending)
      cases ending with
      | crashed message =>
        simp only [runSteps, hg, ha]
        refine ⟨[], ?_, rfl⟩
        have hcrash : c.Goes plan runner.Gives (.asked done s rest ⟨[], .crashed message⟩) _ _ := Moves.crashes.goes rfl
        simpa using hasked.trans hcrash
      | exited code errors =>
        cases hs : isSuccess code with
        | false =>
          simp only [runSteps, hg, ha, hs]
          refine ⟨_, ?_, rfl⟩
          have hfail : c.Goes plan runner.Gives (.asked done s rest ⟨[], .exited code errors⟩) _ _ :=
            (Moves.fails hs).goes rfl
          simpa [stepEvents, stepReport, hs] using hasked.trans hfail
        | true =>
          have hnext := ih (done ++ [c.stepReport s code errors]) after
          rw [List.length_append, List.length_singleton] at hnext
          obtain ⟨steps, hgoes, hreport⟩ := hnext
          have hsuccess : c.Goes plan runner.Gives (.asked done s rest ⟨[], .exited code errors⟩) _ _ :=
            (Moves.succeeds hs).goes rfl
          simp only [runSteps, hg, ha, hs, if_true]
          refine ⟨steps, ?_, ?_⟩
          · simpa [stepEvents, stepReport, hs] using (hasked.trans hsuccess).trans hgoes
          · rw [hreport, List.append_assoc, List.singleton_append]

theorem goes_run (c : JobContext) (plan : Plan) (runner : Runner σ) (state : σ) :
    c.Goes plan runner.Gives .admitted (.told (c.run plan runner state).report) (c.run plan runner state).events := by
  obtain ⟨steps, hsteps, hreport⟩ := c.goes_steps plan runner plan [] state
  have hown : c.report plan steps (c.runSteps runner plan 0 state).stop = (c.run plan runner state).report := hreport
  have hbegins : c.Goes plan runner.Gives .admitted _ _ := Moves.begins.goes rfl
  have htells : c.Goes plan runner.Gives (.stopped steps (c.runSteps runner plan 0 state).stop) _ _ :=
    Moves.tells.goes rfl
  rw [hown] at htells
  exact (hbegins.trans hsteps).trans htells

end JobContext

namespace Build
variable {before after : List Lane} {job : Job} {runner : Runner σ}

theorem reachable_of_goes (h : b.Reachable tasks trigger jobs may s)
    (lane : s.lanes = before ++ ⟨job, phase⟩ :: after)
    (goes : (b.context tasks job trigger).Goes b.plan may phase next events) :
    b.Reachable tasks trigger jobs may
      { s with
        lanes := before ++ ⟨job, next⟩ :: after
        log := s.log ++ events.map (.job job.index job.name) } := by
  induction goes generalizing s with
  | refl => simpa [← lane] using h
  | step goes given later ih =>
    have hnext := h.step _ (step?_of_step (.work lane goes)) ?_
    · simpa using ih hnext rfl
    · intro call hc reply hr
      rw [callOf?_work lane] at hc
      cases hr
      exact given call hc

theorem reachable_of_turn (h : b.Reachable tasks trigger jobs runner.Gives s)
    (lane : s.lanes = before ++ ⟨job, .waiting⟩ :: after) (free : s.free ≠ some 0) (state : σ) :
    b.Reachable tasks trigger jobs runner.Gives
      { s with
        lanes := before ++ ⟨job, .gone⟩ :: after
        log := s.log ++ BuildRun.jobEvents (b.runJob tasks job trigger runner state)
        reports := s.reports ++ [(b.runJob tasks job trigger runner state).report] } := by
  obtain ⟨rest, permit⟩ : ∃ rest, RunState.takePermit? s.free = some rest := by
    rcases hs : s.free with _ | _ | n
    · exact ⟨none, rfl⟩
    · exact absurd hs free
    · exact ⟨some n, rfl⟩
  have hback : rest.map (· + 1) = s.free := by simpa using map_of_takePermit? permit 0
  have hjob : (b.runJob tasks job trigger runner state).report.job = job :=
    (b.context tasks job trigger).job_report b.plan _ _
  have hadmitted := h.step _ (step?_of_step (.acquire lane permit)) (by simp [callOf?])
  have htold := reachable_of_goes hadmitted rfl ((b.context tasks job trigger).goes_run b.plan runner state)
  have hgone := htold.step _ (step?_of_step (.release rfl)) (by simp [callOf?])
  rw [BuildRun.jobEvents, hjob]
  simp only [hback] at hgone
  exact hgone

theorem reachable_of_runJobs (rest : List Job) (h : b.Reachable tasks trigger jobs runner.Gives s)
    (lanes : s.lanes = before ++ rest.map (⟨·, .waiting⟩)) (free : s.free ≠ some 0) (state : σ) :
    b.Reachable tasks trigger jobs runner.Gives
      { s with
        lanes := before ++ rest.map (⟨·, .gone⟩)
        log := s.log ++ (b.runJobs tasks trigger runner rest state).1.flatMap BuildRun.jobEvents
        reports := s.reports ++ (b.runJobs tasks trigger runner rest state).1.map (·.report) } := by
  induction rest generalizing s before state with
  | nil =>
    rw [List.map_nil, List.append_nil] at lanes
    simpa [runJobs, ← lanes] using h
  | cons job rest ih =>
    have hturn := reachable_of_turn h lanes free state
    have hlanes : before ++ ⟨job, .gone⟩ :: rest.map (⟨·, .waiting⟩) =
        (before ++ [⟨job, .gone⟩]) ++ rest.map (⟨·, .waiting⟩) := by simp
    have hlater := ih hturn hlanes free (b.runJob tasks job trigger runner state).state
    simpa [runJobs] using hlater

theorem bounded_of_run (expands : b.expand = .ok jobs) {r : BuildRun σ} {state : σ}
    (h : b.run tasks trigger runner state = .ok r) : ∀ n ∈ b.bound, n ≤ greatestBound := by
  intro n hn
  by_contra exceeds
  rw [run_of_bound_lt expands hn (Nat.lt_of_not_le exceeds)] at h
  cases h

/-- What a run of one job after the other leaves, a run of the jobs side by side may leave too: it can be closed with
the same summary and the same events in the same order. -/
theorem exists_reachable_of_run (expands : b.expand = .ok jobs) (bound : b.bound ≠ some 0)
    {r : BuildRun σ} {state : σ} (h : b.run tasks trigger runner state = .ok r) :
    ∃ t, b.Reachable tasks trigger jobs runner.Gives t ∧ t.summary = some r.summary ∧ t.log = r.events := by
  rw [run_eq_ok expands (bounded_of_run expands h)] at h
  cases h
  let runs := (b.runJobs tasks trigger runner jobs state).1
  have hjobs : runs.map (·.report.job) = jobs := b.map_job_runJobs tasks trigger runner jobs state
  have hcount : runs.length = jobs.length := by rw [← hjobs, List.length_map]
  have hordered : (runs.map (·.report)).Pairwise fun r t => r.job.index < t.job.index := by
    have hpairwise := pairwise_index_of_expand expands
    rw [← hjobs] at hpairwise
    simpa only [List.pairwise_map] using hpairwise
  have hsum := b.summaryOf_perm trigger hordered (List.Perm.refl _)
  have hstart : b.Reachable tasks trigger jobs runner.Gives (b.startingState trigger jobs) := .start
  have hlanes : (b.startingState trigger jobs).lanes = [] ++ jobs.map (⟨·, .waiting⟩) := rfl
  have hgone := reachable_of_runJobs jobs hstart hlanes bound state
  have hclosed := hgone.step .close (step?_of_step (.close (by simp [RunState.allGone]) rfl)) (by simp [callOf?])
  refine ⟨_, hclosed, congrArg some hsum, ?_⟩
  have hclosing : (b.summaryOf trigger (runs.map (·.report))).closing = _ := congrArg Summary.closing hsum
  simp [startingState, BuildRun.events, Summary.opening, hcount, runs, hclosing]

end Build
end JobMatrix
