import JobMatrix.Proofs.FirstError
import JobMatrix.Run.Build

/-!
The build of a checked declaration, and its jobs run one after the other by a runner that answers by a function.
-/
namespace JobMatrix.Build
variable {b : Build} {w : Workflow} {settings : Settings} {jobs : List Job} {trigger : Trigger}
  {tasks : Tasks} {e : DeclarationError} {σ : Type}

theorem runJobs_ofFunction (b : Build) (tasks : Tasks) (trigger : Trigger) (answer : Invocation → Reply)
    (jobs : List Job) :
    b.runJobs tasks trigger (.ofFunction answer) jobs () =
      (jobs.map fun job => b.runJob tasks job trigger (.ofFunction answer) (), ()) := by
  induction jobs with
  | nil => rfl
  | cons job rest ih => simp [runJobs, ih]

theorem expand_eq_ok_iff : b.expand = .ok jobs ↔ checkAxes b.axes b.toolchain = .ok () ∧
    ∃ count, jobCount b.axes = .ok count ∧ (List.range count).map (jobAt b.axes b.toolchain) = jobs := by
  rw [expand, JobMatrix.expand, bind_unit_eq_ok_iff]
  simp [bind_eq_ok_iff, pure, Except.pure]

theorem pairwise_index_of_expand (h : b.expand = .ok jobs) : jobs.Pairwise fun j k => j.index < k.index := by
  obtain ⟨-, count, -, rfl⟩ := expand_eq_ok_iff.mp h
  exact List.pairwise_map.mpr List.pairwise_lt_range

theorem begin_eq_ok (expands : b.expand = .ok jobs) (bounded : ∀ n ∈ b.bound, n ≤ greatestBound)
    (trigger : Trigger) : b.begin trigger = .ok jobs := by
  have hb : b.bound.any (greatestBound < ·) = false := by
    rw [Option.any_eq_false]
    intro n hn
    simpa using bounded n hn
  simp only [begin, expands, hb, Bool.false_eq_true, if_false]

theorem begin_of_expand_error (h : b.expand = .error e) (trigger : Trigger) :
    b.begin trigger = .error e := by
  simp only [begin, h]

theorem begin_of_bound_lt (expands : b.expand = .ok jobs) {n : Nat} (hn : n ∈ b.bound) (exceeds : greatestBound < n)
    (trigger : Trigger) :
    b.begin trigger = .panic (.started b.name trigger jobs.length) := by
  have hany : b.bound.any (greatestBound < ·) = true := by
    rw [Option.mem_def.mp hn]
    simpa using exceeds
  simp only [begin, expands, hany, if_true]

theorem run_of_expand_error (h : b.expand = .error e) (tasks : Tasks) (trigger : Trigger) (runner : Runner σ)
    (state : σ) : b.run tasks trigger runner state = .error e := by
  rw [run, begin_of_expand_error h]
  rfl

theorem run_of_bound_lt (expands : b.expand = .ok jobs) {n : Nat} (hn : n ∈ b.bound)
    (exceeds : greatestBound < n) (tasks : Tasks) (trigger : Trigger) (runner : Runner σ) (state : σ) :
    b.run tasks trigger runner state = .panic (.started b.name trigger jobs.length) := by
  rw [run, begin_of_bound_lt expands hn exceeds]
  rfl

@[simp] theorem expand_underBound (b : Build) (override : Option Nat) :
    (b.underBound override).expand = b.expand := by
  cases override <;> rfl

@[simp] theorem runJob_underBound (b : Build) (override : Option Nat) (tasks : Tasks) (job : Job)
    (trigger : Trigger) (runner : Runner Unit) :
    (b.underBound override).runJob tasks job trigger runner () = b.runJob tasks job trigger runner () := by
  cases override <;> rfl

theorem parallelBound_ne_zero (n : Nat) : parallelBound n ≠ some 0 := by
  by_cases hn : n = 0 <;> simp [parallelBound, hn]

theorem run_eq_ok (expands : b.expand = .ok jobs) (bounded : ∀ n ∈ b.bound, n ≤ greatestBound)
    (tasks : Tasks) (trigger : Trigger) (runner : Runner σ) (state : σ) :
    b.run tasks trigger runner state =
      let (runs, final) := b.runJobs tasks trigger runner jobs state
      .ok ⟨⟨b.name, trigger, runs.map (·.report)⟩, runs, final⟩ := by
  rw [run, begin_eq_ok expands bounded]
  rfl

theorem run_ofFunction (expands : b.expand = .ok jobs) (bounded : ∀ n ∈ b.bound, n ≤ greatestBound)
    (tasks : Tasks) (trigger : Trigger) (answer : Invocation → Reply) :
    b.run tasks trigger (.ofFunction answer) () =
      let runs := jobs.map fun job => b.runJob tasks job trigger (.ofFunction answer) ()
      .ok ⟨⟨b.name, trigger, runs.map (·.report)⟩, runs, ()⟩ := by
  rw [run_eq_ok expands bounded, runJobs_ofFunction]

theorem ofWorkflow_eq_ok_iff {w : Workflow} {settings : Settings} :
    ofWorkflow w settings = .ok b ↔
      w.check = .ok () ∧ ∃ axes, w.axes = .ok axes ∧ ∃ plan, Plan.ofSteps w.steps = .ok plan ∧
        ⟨w.displayName, axes, w.toolchain, w.maxParallel.bind parallelBound, plan, settings⟩ = b := by
  rw [ofWorkflow, bind_unit_eq_ok_iff]
  simp [bind_eq_ok_iff, pure, Except.pure]

theorem bound_underBound (checked : ofWorkflow w settings = .ok b) (override : Option Nat) :
    (b.underBound override).bound = (override.or w.maxParallel).bind parallelBound := by
  cases override with
  | some n => rfl
  | none =>
    obtain ⟨-, axes, -, plan, -, rfl⟩ := ofWorkflow_eq_ok_iff.mp checked
    rfl

theorem bound_underBound_ne_zero (checked : ofWorkflow w settings = .ok b) (override : Option Nat) :
    (b.underBound override).bound ≠ some 0 := by
  rw [bound_underBound checked]
  cases override.or w.maxParallel with
  | none => simp
  | some n => simpa using parallelBound_ne_zero n

end JobMatrix.Build
