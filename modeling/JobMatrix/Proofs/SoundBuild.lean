import JobMatrix.Proofs.CheckedBuild
import JobMatrix.Proofs.DeclarationCheck
import JobMatrix.Proofs.MatrixProduct

/-!
The build of a declaration that passes its check. Nothing that the check has looked at fails again; the one thing
that it does not look at is the number of jobs.
-/
namespace JobMatrix.Workflow
variable {w : Workflow} {settings : Settings} {b : Build}

theorem errors_of_check (checked : w.check = .ok ()) : w.errors = [] := by
  rw [check_eq_firstOf] at checked
  exact firstOf_eq_ok_iff.mp checked

theorem check_eq_ok_iff_isSound : w.check = .ok () ↔ w.IsSound := by
  rw [check_eq_firstOf, firstOf_eq_ok_iff, List.eq_nil_iff_forall_not_mem]
  simp only [mem_errors]
  exact ⟨isSound_of_not_violates, fun sound e => sound.not_violates⟩

theorem isSound_of_check (checked : w.check = .ok ()) : w.IsSound := check_eq_ok_iff_isSound.mp checked

theorem axes_of_check (checked : w.check = .ok ()) : w.axes = .ok w.textAxes := by
  have hnone : w.matrix.entries.flatMap scalarErrors = [] := by
    have h := errors_of_check checked
    simp only [errors, outlineErrors, List.append_eq_nil_iff] at h
    exact h.1.1.1.1.1.1
  rw [axes_eq, hnone]
  rfl

theorem checkAxes_of_check (checked : w.check = .ok ()) : checkAxes w.textAxes w.toolchain = .ok () := by
  have haxes := axes_of_check checked
  rw [check, haxes] at checked
  obtain ⟨axes, ha, hrest⟩ := bind_eq_ok_iff.mp checked
  cases ha
  exact (bind_unit_eq_ok_iff.mp hrest).1

def plannedSteps (w : Workflow) : Plan := w.steps.map fun step => ⟨step, templateOf step⟩

theorem ofSteps_of_check (checked : w.check = .ok ()) : Plan.ofSteps w.steps = .ok w.plannedSteps := by
  have hnone : w.steps.flatMap commandErrors = [] := by
    have h := errors_of_check checked
    simp only [errors, stepErrors, List.append_eq_nil_iff] at h
    exact h.2.1.2
  rw [ofSteps_eq, hnone]
  rfl

def soundBuild (w : Workflow) (settings : Settings) : Build :=
  ⟨w.displayName, w.textAxes, w.toolchain, w.maxParallel.bind parallelBound, w.plannedSteps, settings⟩

theorem ofWorkflow_eq (w : Workflow) (settings : Settings) :
    Build.ofWorkflow w settings = (do w.check; return w.soundBuild settings) := by
  cases hc : w.check with
  | error e =>
    rw [Build.ofWorkflow, hc]
    rfl
  | ok =>
    rw [Build.ofWorkflow, hc, axes_of_check hc, ofSteps_of_check hc]
    rfl

theorem ofWorkflow_eq_ok_iff_check :
    Build.ofWorkflow w settings = .ok b ↔ w.check = .ok () ∧ w.soundBuild settings = b := by
  rw [ofWorkflow_eq, bind_unit_eq_ok_iff]
  simp [pure, Except.pure]

theorem ofWorkflow_eq_error_iff_check {e : DeclarationError} :
    Build.ofWorkflow w settings = .error e ↔ w.check = .error e := by
  rw [ofWorkflow_eq]
  cases w.check <;> simp [bind, Except.bind, pure, Except.pure]

def expansion (w : Workflow) : Except DeclarationError (List Job) := do
  expand (← w.axes) w.toolchain

theorem ofWorkflow_of_check (checked : w.check = .ok ()) (settings : Settings) :
    Build.ofWorkflow w settings = .ok (w.soundBuild settings) :=
  ofWorkflow_eq_ok_iff_check.mpr ⟨checked, rfl⟩

theorem expand_soundBuild (checked : w.check = .ok ()) (settings : Settings) :
    (w.soundBuild settings).expand = w.expansion := by
  rw [expansion, axes_of_check checked]
  rfl

def choiceCount (w : Workflow) : Nat := (w.matrix.entries.map fun entry => entry.2.length).prod

theorem combinationCount_textAxes (checked : w.check = .ok ()) :
    combinationCount w.textAxes = w.choiceCount := by
  have hsize : ∀ entry ∈ w.matrix.entries, (textsOf entry.2).length = entry.2.length := by
    intro entry he
    refine List.filterMap_length_eq_length.mpr fun v hv => ?_
    have hget := w.matrix.get?_eq_some_iff.mpr he
    exact Option.isSome_iff_ne_none.mpr ((isSound_of_check checked).scalars _ _ hget v hv)
  rw [combinationCount, textAxes, List.map_map, choiceCount]
  exact congrArg List.prod (List.map_congr_left hsize)

/-- A checked declaration has a build. The build expands into the jobs of all choices, numbered in order, if there
are no more of them than can be addressed, and is refused as too large if there are. -/
theorem expand_of_checked (checked : w.check = .ok ()) (settings : Settings) :
    ∃ b, Build.ofWorkflow w settings = .ok b ∧
      (w.choiceCount ≤ jobLimit → ∃ jobs, b.expand = .ok jobs ∧
        jobs.map Job.index = List.range w.choiceCount) ∧
      (jobLimit < w.choiceCount → b.expand = .error .tooManyJobs) := by
  have haxes := checkAxes_of_check checked
  rw [← combinationCount_textAxes checked]
  refine ⟨_, ofWorkflow_eq_ok_iff_check.mpr ⟨checked, rfl⟩, fun hl => ?_, expand_eq_error haxes⟩
  refine ⟨_, expand_eq_ok haxes hl, ?_⟩
  rw [List.map_map]
  exact List.map_id _

def backendWorkflow : Workflow where
  name := some "backends"
  env := .empty
  toolchain := some .standard
  maxParallel := none
  matrix := .ofList [("backend", [.string "openssl", .string "mbedtls"]),
    ("toolchain", [.string "stable", .string "nightly"])]
  steps := [⟨"Build", "cargo build --features $\x7b\x7b matrix.backend \x7d\x7d", none, none, .empty, none⟩,
    ⟨"Miri", "cargo miri test", some ⟨none, .ofList [("toolchain", "nightly")], []⟩, none, .empty, none⟩]

theorem check_backendWorkflow : backendWorkflow.check = .ok () := by decide +kernel

theorem expand_backendWorkflow : backendWorkflow.check = .ok () ∧
    ∃ b jobs, Build.ofWorkflow backendWorkflow (.initial "/work") = .ok b ∧ b.expand = .ok jobs ∧
      jobs.map Job.index = [0, 1, 2, 3] := by
  obtain ⟨b, hb, hsmall, -⟩ := expand_of_checked check_backendWorkflow (.initial "/work")
  obtain ⟨jobs, hjobs, hindex⟩ := hsmall (by decide)
  exact ⟨check_backendWorkflow, b, jobs, hb, hjobs, hindex⟩

def wideWorkflow : Workflow where
  name := none
  env := .empty
  toolchain := none
  maxParallel := none
  matrix := .ofList ((List.range 64).map fun i => ("flag" ++ toString i, [.bool false, .bool true]))
  steps := [⟨"Build", "make", none, none, .empty, none⟩]

theorem check_wideWorkflow : wideWorkflow.check = .ok () := by decide +kernel

theorem expand_wideWorkflow (settings : Settings) :
    (wideWorkflow.soundBuild settings).expand = .error .tooManyJobs := by
  refine expand_eq_error (checkAxes_of_check check_wideWorkflow) ?_
  change jobLimit < combinationCount wideWorkflow.textAxes
  rw [combinationCount_textAxes check_wideWorkflow]
  decide +kernel

theorem not_checked_expands : ¬ ∀ w : Workflow, w.check = .ok () → ∀ settings : Settings,
    ∃ b jobs, Build.ofWorkflow w settings = .ok b ∧ b.expand = .ok jobs := by
  intro h
  obtain ⟨b, jobs, hb, hjobs⟩ := h wideWorkflow check_wideWorkflow (.initial "/work")
  obtain ⟨-, rfl⟩ := ofWorkflow_eq_ok_iff_check.mp hb
  rw [expand_wideWorkflow] at hjobs
  cases hjobs

end JobMatrix.Workflow
