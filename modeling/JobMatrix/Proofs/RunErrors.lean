import JobMatrix.Proofs.RunEvents

/-!
How a run can fail. It returns an error exactly if the matrix does not expand, and then it has not begun; or it has a
bound for which there are not enough permits, and then it panics after it has been announced. In all other cases it
comes to its summary, whatever the runner does.
-/
namespace JobMatrix.Build
variable {b base : Build} {w : Workflow} {settings : Settings} {jobs : List Job} {trigger : Trigger} {σ : Type}

theorem map_job_runJobs (b : Build) (tasks : Tasks) (trigger : Trigger) (runner : Runner σ) (jobs : List Job) (state : σ) :
    (b.runJobs tasks trigger runner jobs state).1.map (·.report.job) = jobs := by
  induction jobs generalizing state with
  | nil => rfl
  | cons job rest ih =>
    have hjob : (b.runJob tasks job trigger runner state).report.job = job :=
      (b.context tasks job trigger).job_report b.plan _ _
    rw [runJobs, List.map_cons, hjob, ih]

theorem bounded_underBound (checked : ofWorkflow w settings = .ok base) {override : Option Nat}
    (keepable : ∀ n, override.or w.maxParallel = some n → n ≤ greatestBound) :
    ∀ n ∈ (base.underBound override).bound, n ≤ greatestBound := by
  intro n hn
  rw [bound_underBound checked, Option.mem_def, Option.bind_eq_some_iff] at hn
  obtain ⟨m, hm, hn⟩ := hn
  rw [parallelBound] at hn
  split at hn
  · cases hn
  · cases hn
    exact keepable n hm

theorem mem_bound_underBound (checked : ofWorkflow w settings = .ok base) {override : Option Nat} {n : Nat}
    (positive : 0 < n) (hn : override.or w.maxParallel = some n) : n ∈ (base.underBound override).bound := by
  rw [bound_underBound checked, hn, Option.bind_some, parallelBound, if_neg (Nat.ne_of_gt positive)]
  rfl

theorem run_eq_error_iff (b : Build) (tasks : Tasks) (trigger : Trigger) (runner : Runner σ) (state : σ)
    (e : DeclarationError) : b.run tasks trigger runner state = .error e ↔ b.expand = .error e := by
  constructor
  · intro h
    rw [run, begin] at h
    cases hexp : b.expand with
    | error d =>
      rw [hexp] at h
      cases h
      rfl
    | ok jobs =>
      simp only [hexp] at h
      split at h <;> cases h
  · intro h
    exact run_of_expand_error h tasks trigger runner state

/-- A run of a checked declaration returns an error exactly if its matrix does not expand, and it is that error; nothing
is told then, and the runner is not asked for anything. Where the matrix does expand, a run under a bound that can be
kept neither fails nor panics: job after job or side by side, and whatever the runner does, it comes to a summary of one
report for each job. Under a greater bound the run panics when it has been announced. -/
theorem run_fails_with_expand (checked : ofWorkflow w settings = .ok base) (override : Option Nat) (tasks : Tasks)
    (trigger : Trigger) (runner : Runner σ) (state : σ) :
    let b := base.underBound override
    let result := b.run tasks trigger runner state
    (∀ e, result = .error e ↔ base.expand = .error e) ∧
    (∀ e, base.expand = .error e → result.events = [] ∧ result.calls = [] ∧ b.begin trigger = .error e) ∧
    ∀ jobs, base.expand = .ok jobs →
      ((∀ n, override.or w.maxParallel = some n → n ≤ greatestBound) →
        (∃ r, result = .ok r ∧ r.summary.jobs.map (·.job) = jobs) ∧
        b.begin trigger = .ok jobs ∧ b.Closes tasks trigger (b.startingState trigger jobs) ∧
        ∀ may s, b.Reachable tasks trigger jobs may s → ∀ summary, s.summary = some summary →
          summary.jobs.map (·.job) = jobs) ∧
      ∀ n, override.or w.maxParallel = some n → greatestBound < n →
        result = .panic (.started b.name trigger jobs.length) ∧
          b.begin trigger = .panic (.started b.name trigger jobs.length) := by
  intro b result
  refine ⟨fun e => ?_, fun e he => ?_, fun jobs expands => ?_⟩
  · have hiff : result = .error e ↔ b.expand = .error e := b.run_eq_error_iff tasks trigger runner state e
    rw [hiff, expand_underBound]
  · have hexp : b.expand = .error e := by rw [expand_underBound, he]
    have hrun : result = .error e := run_of_expand_error hexp tasks trigger runner state
    rw [hrun]
    exact ⟨rfl, rfl, begin_of_expand_error hexp trigger⟩
  · have hexp : b.expand = .ok jobs := by rw [expand_underBound, expands]
    constructor
    · intro keepable
      have hbounded := bounded_underBound checked keepable
      refine ⟨?_, begin_eq_ok hexp hbounded trigger, ?_, ?_⟩
      · refine ⟨_, run_eq_ok hexp hbounded tasks trigger runner state, ?_⟩
        rw [List.map_map]
        exact b.map_job_runJobs tasks trigger runner jobs state
      · exact (b.inHand_start trigger jobs).closes (bound_underBound_ne_zero checked override)
      · exact fun may s hs summary hsum => map_job_of_reachable hexp hs hsum
    · intro n hn exceeds
      have hmem := mem_bound_underBound checked (Nat.zero_lt_of_lt exceeds) hn
      exact ⟨run_of_bound_lt hexp hmem exceeds tasks trigger runner state, begin_of_bound_lt hexp hmem exceeds trigger⟩

theorem run_systemTests_under_bounds :
    ofWorkflow systemTests systemTestsBuild.settings = .ok systemTestsBuild ∧
      (∃ r, systemTestsBuild.run .numbered .push (.ofFunction crashesOnWindows) () = .ok r ∧
        r.summary.jobs.length = 3) ∧
      (systemTestsBuild.withBound (greatestBound + 1)).run .numbered .push (.ofFunction crashesOnWindows) () =
        .panic (.started "tests" .push 3) := by
  have hdeclared := run_fails_with_expand ofWorkflow_systemTests none .numbered .push (.ofFunction crashesOnWindows) ()
  have hgiven := run_fails_with_expand ofWorkflow_systemTests (some (greatestBound + 1)) .numbered .push
    (.ofFunction crashesOnWindows) ()
  have keepable : ∀ n, (none : Option Nat).or systemTests.maxParallel = some n → n ≤ greatestBound := by
    rintro n ⟨⟩
    decide
  obtain ⟨⟨r, hr, hjobs⟩, -⟩ := (hdeclared.2.2 _ expand_systemTests).1 keepable
  obtain ⟨hpanic, -⟩ := (hgiven.2.2 _ expand_systemTests).2 _ rfl (Nat.lt_succ_self _)
  refine ⟨ofWorkflow_systemTests, ⟨r, hr, ?_⟩, hpanic⟩
  rw [← List.length_map, hjobs]
  rfl

theorem not_run_never_panics : ¬ ∀ (w : Workflow) (settings : Settings) (base : Build),
    ofWorkflow w settings = .ok base → ∀ n < UInt64.size, ∀ (tasks : Tasks) (trigger : Trigger) (runner : Runner Unit),
      ∀ announcement, (base.withBound n).run tasks trigger runner () ≠ .panic announcement := by
  intro h
  have hbound : greatestBound + 1 ∈ (systemTestsBuild.withBound (greatestBound + 1)).bound := rfl
  have hrun := run_of_bound_lt (b := systemTestsBuild.withBound (greatestBound + 1)) expand_systemTests hbound
    (Nat.lt_succ_self _) .numbered .push (.ofFunction crashesOnWindows) ()
  exact h _ _ _ ofWorkflow_systemTests (greatestBound + 1) (by decide) _ _ _ _ hrun

end JobMatrix.Build
