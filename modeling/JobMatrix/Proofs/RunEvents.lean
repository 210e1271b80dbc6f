import JobMatrix.Proofs.LaneEvents
import JobMatrix.Proofs.RunOutcome

/-!
The log of a run whose jobs go on side by side. Whatever the runner answers and whoever's turn it is, the log has one
event before and one after the events of the jobs, and the events of each job, picked out of it, are what the job has
told in its phase. So when the run is closed each job has told its start and its outcome once.
-/
namespace JobMatrix
variable {b : Build} {tasks : Tasks} {trigger : Trigger} {may : Invocation → Reply → Prop} {jobs : List Job} {s t : RunState}
  {move : Move} {index : Nat}

def eventsOf (index : Nat) (log : List RunEvent) : List JobEvent :=
  log.filterMap fun
    | .job i _ event => if i = index then some event else none
    | .started .. | .completed .. => none

def RunEvent.IsOf (jobs : List Job) (e : RunEvent) : Prop :=
  ∃ job ∈ jobs, ∃ event, e = .job job.index job.name event

theorem eventsOf_append (index : Nat) (log more : List RunEvent) :
    eventsOf index (log ++ more) = eventsOf index log ++ eventsOf index more := List.filterMap_append

theorem eventsOf_own (job : Job) (events : List JobEvent) :
    eventsOf job.index (events.map (.job job.index job.name)) = events := by
  simp [eventsOf, List.filterMap_map]

theorem eventsOf_other {job : Job} (hne : job.index ≠ index) (events : List JobEvent) :
    eventsOf index (events.map (.job job.index job.name)) = [] := by
  simp [eventsOf, List.filterMap_map, hne]

namespace Build

/-- What the log of a run is in every state, whatever the runner answers: each job has told what belongs to its phase,
the reports are of the jobs that are gone, and around the events of jobs are those of the run. -/
structure Logs (b : Build) (trigger : Trigger) (jobs : List Job) (s : RunState) : Prop
    extends b.InHand trigger jobs s where
  lanes : ∀ lane ∈ s.lanes,
    HasTold b.plan.length s.reports lane.job lane.phase (eventsOf lane.job.index s.log)
  reported : (s.reports.map (·.job)).Perm ((s.lanes.filter (·.phase == .gone)).map (·.job))
  log : ∃ inner, s.log = .started b.name trigger jobs.length :: inner ++ (s.summary.map Summary.closing).toList ∧
    ∀ e ∈ inner, e.IsOf jobs

theorem logs_start (b : Build) (trigger : Trigger) (jobs : List Job) :
    b.Logs trigger jobs (b.startingState trigger jobs) where
  toInHand := b.inHand_start trigger jobs
  lanes := by
    intro lane hl
    obtain ⟨job, -, rfl⟩ := List.mem_map.mp hl
    exact .waiting
  reported := by simp [startingState, List.filter_map, Function.comp_def]
  log := ⟨[], rfl, by simp⟩

theorem InHand.index_ne (h : b.InHand trigger jobs s) (distinct : (jobs.map Job.index).Nodup)
    {before after : List Lane} {lane : Lane} (hs : s.lanes = before ++ lane :: after) :
    ∀ other ∈ before ++ after, lane.job.index ≠ other.job.index := by
  rw [← h.members, hs, List.map_map, List.map_append, List.map_cons, List.nodup_middle, ← List.map_append] at distinct
  intro other ho heq
  exact (List.nodup_cons.mp distinct).1 (List.mem_map.mpr ⟨other, ho, heq.symm⟩)

theorem InHand.forall_lanes (h : b.InHand trigger jobs s) (distinct : (jobs.map Job.index).Nodup)
    (events : List JobEvent) {before after : List Lane} {job : Job} {phase next : Phase} {reports : List JobReport}
    (hs : s.lanes = before ++ ⟨job, phase⟩ :: after) (hsub : s.reports ⊆ reports)
    (hl : ∀ lane ∈ s.lanes,
      HasTold b.plan.length s.reports lane.job lane.phase (eventsOf lane.job.index s.log))
    (hnext : HasTold b.plan.length s.reports job phase (eventsOf job.index s.log) →
      HasTold b.plan.length reports job next (eventsOf job.index s.log ++ events)) :
    ∀ lane ∈ before ++ ⟨job, next⟩ :: after, HasTold b.plan.length reports lane.job lane.phase
      (eventsOf lane.job.index (s.log ++ events.map (.job job.index job.name))) := by
  have hne := h.index_ne distinct hs
  have hother : ∀ lane ∈ before ++ after, HasTold b.plan.length reports lane.job lane.phase
      (eventsOf lane.job.index (s.log ++ events.map (.job job.index job.name))) := by
    intro lane hm
    rw [eventsOf_append, eventsOf_other (hne lane hm), List.append_nil]
    refine (hl lane ?_).mono hsub
    rw [hs]
    simp only [List.mem_append, List.mem_cons] at hm ⊢
    tauto
  simp only [List.forall_mem_append, List.forall_mem_cons] at hother ⊢
  refine ⟨hother.1, ?_, hother.2⟩
  rw [eventsOf_append, eventsOf_own]
  exact hnext (hl ⟨job, phase⟩ (by simp [hs]))

theorem Logs.step (h : b.Logs trigger jobs s) (distinct : (jobs.map Job.index).Nodup)
    (goes : b.Step tasks trigger s move t) : b.Logs trigger jobs t := by
  have hn := h.unclosed goes
  obtain ⟨inner, hlog, hinner⟩ := h.log
  refine ⟨h.toInHand.step goes, ?_, ?_, ?_⟩
  · cases goes with
    | @acquire before after job free lane permit =>
      have htold := h.forall_lanes distinct [] lane (List.Subset.refl _) h.lanes fun hlane => by
        rw [List.append_nil]
        exact hlane.admit
      simpa using htold
    | @work before after job phase next reply events lane goes =>
      exact h.forall_lanes distinct events lane (List.Subset.refl _) h.lanes fun hlane => hlane.moves goes
    | @release before after job report lane =>
      have hsub : s.reports ⊆ s.reports ++ [report] := List.subset_append_left ..
      have htold := h.forall_lanes distinct [] lane hsub h.lanes fun hlane => by
        rw [List.append_nil]
        exact (hlane.mono hsub).release (by simp)
      simpa using htold
    | close gone unclosed =>
      intro lane hl
      have hclosing : eventsOf lane.job.index [(b.summaryOf trigger s.reports).closing] = [] := rfl
      rw [eventsOf_append, hclosing, List.append_nil]
      exact h.lanes lane hl
  · refine goes.perm_reports (·.job) id (fun job report hl => ?_) h.reported
    cases h.lanes _ hl with
    | told own whole => exact own
  · rw [hn, Option.map_none, Option.toList_none, List.append_nil] at hlog
    cases goes with
    | acquire lane permit | release lane => exact ⟨inner, by simpa [hn] using hlog, hinner⟩
    | @work before after job phase next reply events lane goes =>
      have hjob : job ∈ jobs := by
        rw [← h.members, lane]
        simp
      refine ⟨inner ++ events.map (.job job.index job.name), by simp [hlog, hn], ?_⟩
      intro e he
      rcases List.mem_append.mp he with he | he
      · exact hinner e he
      · obtain ⟨event, -, rfl⟩ := List.mem_map.mp he
        exact ⟨job, hjob, event, rfl⟩
    | close gone unclosed => exact ⟨inner, by simp [hlog], hinner⟩

theorem logs_of_reachable (h : b.Reachable tasks trigger jobs may s) (distinct : (jobs.map Job.index).Nodup) :
    b.Logs trigger jobs s := by
  induction h with
  | start => exact b.logs_start trigger jobs
  | step move before comes given ih => exact ih.step distinct (step_of_step? comes)

end Build

/-- How many jobs have not succeeded, whether they failed or were aborted. -/
def Summary.failures (summary : Summary) : Nat := summary.jobs.countP (·.outcome ≠ .success)

theorem Summary.length_failedJobs (summary : Summary) : summary.failedJobs.length = summary.failures := by
  rw [failedJobs, failures, List.countP_eq_length_filter]
  refine congrArg List.length (List.filter_congr fun r _ => ?_)
  rw [Bool.eq_iff_iff]
  simp [← Outcome.isSuccess_iff]

theorem Summary.success_eq (summary : Summary) : summary.success = (summary.failures == 0) := by
  rw [Bool.eq_iff_iff]
  simp [success, failures, List.countP_eq_zero, Outcome.isSuccess_iff]

/-- The log of a run tells of its jobs what the summary says. It begins with the announcement of the jobs and ends
with their number and that of the failures, which is nothing exactly if the run is a success; between the two, and
nowhere else, are the events of the jobs. Of each job they are a whole log, with the outcome in the summary. -/
structure Summary.IsLogged (summary : Summary) (b : Build) (trigger : Trigger) (jobs : List Job)
    (log : List RunEvent) : Prop where
  brackets : ∃ inner, log = .started b.name trigger jobs.length :: inner ++
    [.completed (summary.failures == 0) jobs.length summary.failures] ∧ ∀ e ∈ inner, e.IsOf jobs
  success : summary.success = (summary.failures == 0)
  complete : summary.jobs.map (·.job) = jobs
  once : ∀ i < jobs.length, ∃ report, summary.jobs[i]? = some report ∧ report.job.index = i ∧
    IsWholeLog b.plan.length report.outcome (eventsOf i log)

namespace Build

theorem Logs.perm_reports (h : b.Logs trigger jobs s) (gone : s.allGone = true) :
    (s.reports.map (·.job)).Perm jobs := by
  have hp := h.reported
  rwa [RunState.filter_of_allGone gone, h.members] at hp

theorem Logs.isWholeLog (h : b.Logs trigger jobs s) (distinct : (jobs.map Job.index).Nodup)
    (gone : s.allGone = true) {report : JobReport} (hr : report ∈ s.reports) :
    IsWholeLog b.plan.length report.outcome (eventsOf report.job.index s.log) := by
  have hperm := h.perm_reports gone
  have hjob : report.job ∈ s.lanes.map (·.job) := by
    rw [h.members, ← hperm.mem_iff]
    exact List.mem_map_of_mem hr
  obtain ⟨⟨job, phase⟩, hl, hown⟩ := List.mem_map.mp hjob
  have hphase : phase = .gone := RunState.phase_of_allGone gone hl
  have htold := h.lanes _ hl
  subst hphase
  cases htold with
  | @gone told events known own whole =>
    -- Only one of the reports is about this job.
    have hnodup : (s.reports.map (·.job)).Nodup := hperm.nodup_iff.mpr distinct.of_map
    have heq : told = report := List.inj_on_of_nodup_map hnodup known hr (own.trans hown)
    rw [← heq, own]
    exact whole

theorem Logs.isLogged (h : b.Logs trigger jobs s) (numbered : jobs.map Job.index = List.range jobs.length)
    {summary : Summary} (hs : s.summary = some summary) : summary.IsLogged b trigger jobs s.log := by
  obtain ⟨gone, rfl⟩ := h.closed summary hs
  obtain ⟨inner, hlog, hinner⟩ := h.log
  have hordered : jobs.Pairwise (·.index < ·.index) := by
    rw [← List.pairwise_map, numbered]
    exact List.pairwise_lt_range
  have hdistinct : (jobs.map Job.index).Nodup := numbered ▸ List.nodup_range
  have hperm := h.perm_reports gone
  have hcomplete : (b.summaryOf trigger s.reports).jobs.map (·.job) = jobs := by
    refine eq_of_perm_of_ordered (((b.perm_summaryOf trigger s.reports).map _).trans hperm) ?_ hordered
    exact List.pairwise_map.mpr (b.pairwise_summaryOf trigger s.reports)
  have hlength : (b.summaryOf trigger s.reports).jobs.length = jobs.length := by
    rw [← List.length_map, hcomplete]
  refine ⟨⟨inner, ?_, hinner⟩, Summary.success_eq _, hcomplete, fun i hi => ?_⟩
  · rw [hlog, hs, Option.map_some, Option.toList_some, Summary.closing, Summary.length_failedJobs, hlength]
  · obtain ⟨job, hjob⟩ : ∃ job, jobs[i]? = some job := ⟨_, List.getElem?_eq_getElem hi⟩
    have hindex : job.index = i := by
      have hget := congrArg (·[i]?) numbered
      simp only [List.getElem?_map, hjob, List.getElem?_range hi] at hget
      exact Option.some.inj hget
    have hget := congrArg (·[i]?) hcomplete
    simp only [List.getElem?_map, hjob, Option.map_eq_some_iff] at hget
    obtain ⟨report, hreport, rfl⟩ := hget
    have hmem : report ∈ s.reports :=
      (b.perm_summaryOf trigger s.reports).mem_iff.mp (List.mem_of_getElem? hreport)
    have hwhole := h.isWholeLog hdistinct gone hmem
    rw [hindex] at hwhole
    exact ⟨report, hreport, hindex, hwhole⟩

theorem map_index_of_expand (expands : b.expand = .ok jobs) : jobs.map Job.index = List.range jobs.length := by
  obtain ⟨-, count, -, rfl⟩ := expand_eq_ok_iff.mp expands
  have hindex : Job.index ∘ jobAt b.axes b.toolchain = id := rfl
  rw [List.map_map, hindex, List.map_id, List.length_map, List.length_range]

theorem map_job_of_reachable (expands : b.expand = .ok jobs) (h : b.Reachable tasks trigger jobs may s)
    {summary : Summary} (hsum : s.summary = some summary) : summary.jobs.map (·.job) = jobs := by
  have hnumbered := map_index_of_expand expands
  exact ((logs_of_reachable h (hnumbered ▸ List.nodup_range)).isLogged hnumbered hsum).complete

/-- A run of the jobs of a checked declaration side by side, under any bound that can be kept and with any runner, is
closed in the end, whoever's turn it is; and when it is closed its log tells every job once, as its summary has it. -/
theorem closed_run_isLogged {w : Workflow} {settings : Settings} {base : Build}
    (checked : ofWorkflow w settings = .ok base) (expands : base.expand = .ok jobs) (override : Option Nat)
    (bounded : ∀ n ∈ (base.underBound override).bound, n ≤ greatestBound) (tasks : Tasks) (trigger : Trigger) :
    let b := base.underBound override
    b.begin trigger = .ok jobs ∧ b.Closes tasks trigger (b.startingState trigger jobs) ∧
      ∀ may s, b.Reachable tasks trigger jobs may s → ∀ summary, s.summary = some summary →
        summary.IsLogged b trigger jobs s.log := by
  intro b
  have hexp : b.expand = .ok jobs := by rw [expand_underBound, expands]
  have hnumbered := map_index_of_expand hexp
  have hdistinct : (jobs.map Job.index).Nodup := hnumbered ▸ List.nodup_range
  refine ⟨begin_eq_ok hexp bounded trigger, ?_, ?_⟩
  · exact (b.inHand_start trigger jobs).closes (bound_underBound_ne_zero checked override)
  · intro may s hs summary hsum
    exact (logs_of_reachable hs hdistinct).isLogged hnumbered hsum

theorem Closes.exists_closed (h : b.Closes tasks trigger s) (answer : Invocation → Reply)
    (hs : b.Reachable tasks trigger jobs (fun call reply => reply = answer call) s) :
    ∃ t summary, b.Reachable tasks trigger jobs (fun call reply => reply = answer call) t ∧ t.summary = some summary := by
  induction h with
  | @closed s result still =>
    obtain ⟨summary, hsum⟩ := Option.isSome_iff_exists.mp result
    exact ⟨s, summary, hs, hsum⟩
  | later unclosed goesOn closes ih =>
    obtain ⟨t, move, comes, given⟩ := goesOn answer
    exact ih move t comes (hs.step move comes given)

theorem closed_systemTests_isLogged :
    ofWorkflow systemTests systemTestsBuild.settings = .ok systemTestsBuild ∧
      ∃ jobs s summary, systemTestsBuild.expand = .ok jobs ∧
        systemTestsBuild.Reachable .numbered .push jobs (fun call reply => reply = crashesOnWindows call) s ∧
        s.summary = some summary ∧ summary.IsLogged systemTestsBuild .push jobs s.log ∧
        summary.jobs.map (·.outcome) =
          [.success, .aborted (panicText 2 (some "lost")), .failed "test" (some 101)] := by
  obtain ⟨-, closes, logged⟩ := closed_run_isLogged ofWorkflow_systemTests expand_systemTests none bounded_systemTests
    .numbered .push
  obtain ⟨s, summary, hs, hsum⟩ := closes.exists_closed crashesOnWindows .start
  refine ⟨ofWorkflow_systemTests, _, s, summary, expand_systemTests, hs, hsum, logged _ s hs summary hsum, ?_⟩
  have hcourse := onCourse_of_reachable hs
  obtain ⟨gone, rfl⟩ := hcourse.closed summary hsum
  rw [hcourse.summaryOf_delivered gone (pairwise_index_of_expand expand_systemTests) (List.Perm.refl _)]
  decide +kernel

end Build
end JobMatrix
