import JobMatrix.Proofs.CheckedBuild
import JobMatrix.Proofs.RunProgress

/-!
However the jobs of a run are interleaved, the run comes to an end, and always with the same summary: the reports
of the jobs run alone, in the order of the matrix.
-/
namespace JobMatrix
variable {b : Build} {tasks : Tasks} {trigger : Trigger} {answer : Invocation → Reply} {jobs : List Job} {s t : RunState}
  {move : Move} {summary : Summary}

namespace Build

def loneReport (b : Build) (tasks : Tasks) (trigger : Trigger) (answer : Invocation → Reply) (job : Job) :
    JobReport :=
  (b.runJob tasks job trigger (.ofFunction answer) ()).report

/-- Every course of the run from here on is finite, gets stuck nowhere, and closes the run with the summary. -/
inductive Ends (b : Build) (tasks : Tasks) (trigger : Trigger) (answer : Invocation → Reply) (summary : Summary) :
    RunState → Prop
  | closed {s : RunState} (result : s.summary = some summary)
      (still : ∀ t, ¬ b.Follows tasks trigger answer s t) : Ends b tasks trigger answer summary s
  | later {s : RunState} (unclosed : s.summary = none) (goesOn : ∃ t, b.Follows tasks trigger answer s t)
      (ends : ∀ t, b.Follows tasks trigger answer s t → Ends b tasks trigger answer summary t) :
      Ends b tasks trigger answer summary s

/-- What holds in every state of a run whose runner answers by a function: the jobs that are gone have left their
reports, and those on their way are heading for them. -/
structure OnCourse (b : Build) (tasks : Tasks) (trigger : Trigger) (answer : Invocation → Reply)
    (jobs : List Job) (s : RunState) : Prop extends b.InHand trigger jobs s where
  final : ∀ lane ∈ s.lanes,
    (b.context tasks lane.job trigger).finalReport b.plan answer lane.phase = b.loneReport tasks trigger answer lane.job
  reports : s.reports.Perm
    ((s.lanes.filter (·.phase == .gone)).map fun lane => b.loneReport tasks trigger answer lane.job)

theorem onCourse_start (b : Build) (tasks : Tasks) (trigger : Trigger) (answer : Invocation → Reply)
    (jobs : List Job) :
    b.OnCourse tasks trigger answer jobs (b.startingState trigger jobs) where
  toInHand := b.inHand_start trigger jobs
  final := by
    intro lane h
    obtain ⟨job, -, rfl⟩ := List.mem_map.mp h
    exact ((b.context tasks job trigger).report_run b.plan answer).symm
  reports := by simp [startingState, List.filter_map, Function.comp_def]

theorem OnCourse.step (h : b.OnCourse tasks trigger answer jobs s) (goes : b.Step tasks trigger s move t)
    (given : b.Answers tasks trigger answer s move) : b.OnCourse tasks trigger answer jobs t := by
  have hf := h.final
  refine ⟨h.toInHand.step goes, ?_, ?_⟩
  · cases goes with
    | @acquire before after job free lane permit =>
      simp only [lane, List.forall_mem_append, List.forall_mem_cons] at hf ⊢
      exact hf
    | @work before after job phase next reply events lane goes =>
      simp only [lane, List.forall_mem_append, List.forall_mem_cons] at hf ⊢
      refine ⟨hf.1, ?_, hf.2.2⟩
      -- The reply is the runner's own, so the lane is still heading for the same report.
      rw [goes.finalReport_eq fun call hc => given call (by rw [callOf?_work lane]; exact hc) reply rfl]
      exact hf.2.1
    | @release before after job report lane =>
      simp only [lane, List.forall_mem_append, List.forall_mem_cons] at hf ⊢
      exact ⟨hf.1, rfl, hf.2.2⟩
    | close gone unclosed => exact hf
  · have hr := h.reports
    rw [← s.reports.map_id] at hr
    have hp := goes.perm_reports id (b.loneReport tasks trigger answer) (fun job report hl => hf _ hl) hr
    rwa [List.map_id] at hp

theorem onCourse_of_reachable (h : b.Reachable tasks trigger jobs (fun call reply => reply = answer call) s) :
    b.OnCourse tasks trigger answer jobs s := by
  induction h with
  | start => exact b.onCourse_start tasks trigger answer jobs
  | step move before comes given ih => exact ih.step (step_of_step? comes) given

theorem job_loneReport (b : Build) (tasks : Tasks) (trigger : Trigger) (answer : Invocation → Reply) (job : Job) :
    (b.loneReport tasks trigger answer job).job = job := by
  simp only [loneReport, runJob, JobContext.run, JobContext.report, context]
  split <;> rfl

theorem summaryOf_perm (b : Build) (trigger : Trigger) {reports delivered : List JobReport}
    (ordered : reports.Pairwise fun r t => r.job.index < t.job.index) (h : delivered.Perm reports) :
    b.summaryOf trigger delivered = ⟨b.name, trigger, reports⟩ := by
  have hjobs := eq_of_perm_of_ordered ((b.perm_summaryOf trigger delivered).trans h)
    (b.pairwise_summaryOf trigger delivered) ordered
  exact congrArg (Summary.mk b.name trigger) hjobs

theorem OnCourse.reports_perm (h : b.OnCourse tasks trigger answer jobs s) (gone : s.allGone = true) :
    s.reports.Perm (jobs.map (b.loneReport tasks trigger answer)) := by
  have hr := h.reports
  rw [RunState.filter_of_allGone gone] at hr
  rwa [← h.members, List.map_map]

theorem OnCourse.summaryOf_delivered (h : b.OnCourse tasks trigger answer jobs s) (gone : s.allGone = true)
    (ordered : jobs.Pairwise fun j k => j.index < k.index) {delivered : List JobReport}
    (hd : delivered.Perm s.reports) :
    b.summaryOf trigger delivered = ⟨b.name, trigger, jobs.map (b.loneReport tasks trigger answer)⟩ := by
  refine summaryOf_perm b trigger ?_ (hd.trans (h.reports_perm gone))
  simpa only [List.pairwise_map, job_loneReport] using ordered

theorem OnCourse.ends (h : b.OnCourse tasks trigger answer jobs s) (bound : b.bound ≠ some 0)
    (ordered : jobs.Pairwise fun j k => j.index < k.index) :
    b.Ends tasks trigger answer ⟨b.name, trigger, jobs.map (b.loneReport tasks trigger answer)⟩ s := by
  induction s using induction_on_moves b tasks trigger with
  | _ s ih =>
    cases hs : s.summary with
    | some summary =>
      obtain ⟨gone, rfl⟩ := h.closed summary (by simp [hs])
      rw [h.summaryOf_delivered gone ordered (List.Perm.refl _)] at hs
      refine .closed hs ?_
      rintro t ⟨move, comes, -⟩
      simp [h.unclosed (step_of_step? comes)] at hs
    | none =>
      refine .later hs (h.goesOn bound hs answer) ?_
      rintro t ⟨move, comes, given⟩
      have hstep := step_of_step? comes
      exact ih move t hstep (h.step hstep given)

theorem withoutReason_runJob (b : Build) (tasks others : Tasks) (job : Job) (trigger : Trigger) {σ : Type}
    (runner : Runner σ) (state : σ) :
    (b.runJob others job trigger runner state).report.withoutReason =
      (b.runJob tasks job trigger runner state).report.withoutReason :=
  (b.context tasks job trigger).withoutReason_run (others.crashText job) b.plan runner state

/-- The jobs of a checked declaration run side by side under any bound that can be kept. However they are
interleaved, the run ends, and its summary has one report for each job, in the order of the matrix and in
whatever order the reports are delivered. The report about a job is that of the job run alone: the steps as they
are run if no invocation of the job crashes, and an aborted job with no step run if one does. So it depends
neither on the bound nor on the other jobs, and it is the report of a run of one job after the other. The tasks of
the run, which may be other ones in every run, show in the reason of an abortion and nowhere else. -/
theorem interleaved_run_eq_lone_runs {w : Workflow} {settings : Settings} {base : Build}
    (checked : ofWorkflow w settings = .ok base) (expands : base.expand = .ok jobs) (override : Option Nat)
    (bounded : ∀ n ∈ (base.underBound override).bound, n ≤ greatestBound) (tasks : Tasks) (trigger : Trigger)
    (answer : Invocation → Reply) :
    let b := base.underBound override
    let lone (job : Job) := base.runJob tasks job trigger (.ofFunction answer) ()
    let summary : Summary := ⟨base.name, trigger, jobs.map fun job => (lone job).report⟩
    b.begin trigger = .ok jobs ∧
      b.Ends tasks trigger answer summary (b.startingState trigger jobs) ∧
      (∀ s, b.Reachable tasks trigger jobs (fun call reply => reply = answer call) s → s.allGone = true →
        ∀ delivered, delivered.Perm s.reports → b.summaryOf trigger delivered = summary) ∧
      b.run tasks trigger (.ofFunction answer) () = .ok ⟨summary, jobs.map lone, ()⟩ ∧
      ∀ job ∈ jobs,
        ((∀ call ∈ (lone job).calls, ∀ message, (answer call).ending ≠ .crashed message) →
          let c := base.context tasks job trigger
          let trace := c.runSteps (.ofFunction answer) base.plan 0 ()
          (lone job).report = ⟨job, c.outcome trace.stop, trace.steps⟩) ∧
        (∀ call ∈ (lone job).calls, ∀ message, (answer call).ending = .crashed message →
          (lone job).report =
            ⟨job, .aborted (tasks.crashText job message), base.plan.map fun s => .idle s.step.name .notRun⟩) ∧
        ∀ others : Tasks, (base.runJob others job trigger (.ofFunction answer) ()).report.withoutReason =
          (lone job).report.withoutReason := by
  intro b lone summary
  have hexp : b.expand = .ok jobs := by rw [expand_underBound, expands]
  have hord := pairwise_index_of_expand hexp
  have hbound := bound_underBound_ne_zero checked override
  have hname : b.name = base.name := by cases override <;> rfl
  have hlone : ∀ job, b.runJob tasks job trigger (.ofFunction answer) () = lone job := fun job =>
    runJob_underBound base override tasks job trigger (.ofFunction answer)
  have hsum : (⟨b.name, trigger, jobs.map (b.loneReport tasks trigger answer)⟩ : Summary) = summary := by
    have hreport : b.loneReport tasks trigger answer = fun job => (lone job).report := by
      funext job
      rw [loneReport, hlone]
    rw [hname, hreport]
  refine ⟨begin_eq_ok hexp bounded trigger, ?_, ?_, ?_, ?_⟩
  · rw [← hsum]
    exact (onCourse_start b tasks trigger answer jobs).ends hbound hord
  · intro s hs gone delivered hd
    rw [← hsum]
    exact (onCourse_of_reachable hs).summaryOf_delivered gone hord hd
  · rw [run_ofFunction hexp bounded]
    simp only [hname, hlone, List.map_map, Function.comp_def, summary]
  · intro job _
    refine ⟨fun hno => ?_, fun call hc message hm => ?_, fun others => ?_⟩
    · exact JobContext.report_run_of_not_crashed hno
    · exact JobContext.report_run_of_crashed hc hm
    · exact base.withoutReason_runJob tasks others job trigger _ ()

def systemTests : Workflow where
  name := some "tests"
  env := .ofList []
  toolchain := none
  maxParallel := some 2
  matrix := .ofList [("os", [.string "linux", .string "windows", .string "macos"])]
  steps := [⟨"build", "cargo build", none, none, .ofList [], none⟩,
    ⟨"test", "cargo test --target $\x7b\x7b matrix.os \x7d\x7d", none, none, .ofList [], none⟩]

def systemTestsBuild : Build where
  name := "tests"
  axes := [⟨"os", ["linux", "windows", "macos"]⟩]
  toolchain := none
  bound := some 2
  plan := [⟨⟨"build", "cargo build", none, none, .ofList [], none⟩, ⟨[.literal "cargo build"]⟩⟩,
    ⟨⟨"test", "cargo test --target $\x7b\x7b matrix.os \x7d\x7d", none, none, .ofList [], none⟩,
      ⟨[.literal "cargo test --target ", .placeholder (.matrix "os")]⟩⟩]
  settings := ⟨"nightly", "stable", none, .ofList [], "/"⟩

theorem ofWorkflow_systemTests : ofWorkflow systemTests systemTestsBuild.settings = .ok systemTestsBuild := by
  decide +kernel

theorem expand_systemTests : systemTestsBuild.expand =
    .ok ((List.range 3).map (jobAt systemTestsBuild.axes systemTestsBuild.toolchain)) := by decide +kernel

def crashesOnWindows (call : Invocation) : Reply :=
  if call.command = "cargo test --target windows" then ⟨[], .crashed (some "lost")⟩
  else if call.command = "cargo test --target macos" then ⟨[], .exited (some 101) "failed"⟩
  else .silent

theorem bounded_systemTests : ∀ n ∈ (systemTestsBuild.underBound none).bound, n ≤ greatestBound := by
  intro n hn
  cases hn
  decide

theorem interleaved_systemTests :
    ofWorkflow systemTests systemTestsBuild.settings = .ok systemTestsBuild ∧
      ∃ jobs summary, systemTestsBuild.expand = .ok jobs ∧
        systemTestsBuild.Ends .numbered .push crashesOnWindows summary (systemTestsBuild.startingState .push jobs) ∧
        summary.jobs.map (·.outcome) =
          [.success, .aborted (panicText 2 (some "lost")), .failed "test" (some 101)] := by
  have hrun := interleaved_run_eq_lone_runs ofWorkflow_systemTests expand_systemTests none bounded_systemTests
    .numbered .push crashesOnWindows
  exact ⟨ofWorkflow_systemTests, _, _, expand_systemTests, hrun.2.1, by decide +kernel⟩

end Build
end JobMatrix
