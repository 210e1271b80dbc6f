import JobMatrix.Proofs.SoundBuild

/-!
The jobs and steps of a build that was made from a declaration. The keys of a job are the declared axes, and what
the steps ask of a job is a declared axis, so that every question is answered by a declared value.
-/
namespace JobMatrix

namespace Gate
variable {job : Job} {axis required : String}

theorem valueReason?_eq_noValue {conditions : List (String × String)}
    (h : valueReason? job conditions = some (.noValue axis required)) :
    (axis, required) ∈ conditions ∧ job.value? axis = none := by
  induction conditions with
  | nil => cases h
  | cons condition rest ih =>
    obtain ⟨name, value⟩ := condition
    cases hv : job.value? name with
    | none =>
      simp only [valueReason?, hv, Option.some.injEq, SkipReason.noValue.injEq] at h
      obtain ⟨rfl, rfl⟩ := h
      exact ⟨List.mem_cons_self, hv⟩
    | some actual =>
      simp only [valueReason?, hv] at h
      split at h
      · exact ⟨List.mem_cons_of_mem _ (ih h).1, (ih h).2⟩
      · cases h

theorem reason?_eq_noValue {gate : Gate} {trigger : Trigger}
    (h : gate.reason? job trigger = some (.noValue axis required)) :
    gate.values.get? axis = some required ∧ job.value? axis = none := by
  have htoolchain : toolchainReason? gate.toolchain job ≠ some (.noValue axis required) := by
    unfold toolchainReason?
    split <;> simp
  have htrigger : triggerReason? gate.triggers trigger ≠ some (.noValue axis required) := by
    unfold triggerReason?
    split <;> simp
  simp only [reason?, Option.or_eq_some_iff, htoolchain, htrigger, and_false, or_false, false_or] at h
  obtain ⟨hm, hn⟩ := valueReason?_eq_noValue h.2
  exact ⟨gate.values.get?_eq_some_iff.mpr hm, hn⟩

end Gate

namespace Workflow
variable {w : Workflow} {settings : Settings} {jobs : List Job} {job : Job} {step : Step}

theorem values_of_mem_textAxes {axis : Axis} (h : axis ∈ w.textAxes) : axis.values = w.valuesOf axis.name := by
  obtain ⟨entry, he, rfl⟩ := List.mem_map.mp h
  have hget := w.matrix.get?_eq_some_iff.mpr he
  simp [valuesOf, hget]

def Chosen (w : Workflow) (job : Job) : Prop :=
  ∀ axis ∈ w.matrix.names, ∃ v ∈ w.valuesOf axis, job.value? axis = some v

theorem chosen_of_expand (expands : (w.soundBuild settings).expand = .ok jobs) :
    ∀ job ∈ jobs, w.Chosen job := by
  obtain ⟨haxes, count, -, rfl⟩ := Build.expand_eq_ok_iff.mp expands
  intro job hj name hn
  obtain ⟨number, -, rfl⟩ := List.mem_map.mp hj
  rw [← names_textAxes] at hn
  obtain ⟨axis, ha, rfl⟩ := List.mem_map.mp hn
  obtain ⟨v, hv, hjob⟩ :=
    exists_value?_jobAt w.toolchain w.nodup_names_textAxes (size_pos_of_checkAxes haxes) number axis ha
  exact ⟨v, values_of_mem_textAxes ha ▸ hv, hjob⟩

theorem parse_templateOf (sound : w.IsSound) (hs : step ∈ w.steps) :
    Template.parse step.command = .ok (templateOf step) := by
  obtain ⟨template, hp, -⟩ := sound.commands step hs
  simp [templateOf, hp]

theorem mem_names_of_placeholder (sound : w.IsSound) (hs : step ∈ w.steps) {axis : String}
    (h : .matrix axis ∈ (templateOf step).placeholders) : axis ∈ w.matrix.names := by
  obtain ⟨template, hp, hnames⟩ := sound.commands step hs
  have ht : templateOf step = template := by simp [templateOf, hp]
  exact hnames axis (ht ▸ h)

theorem skipReason?_ne_noValue (sound : w.IsSound) (hs : step ∈ w.steps) (chosen : w.Chosen job)
    (trigger : Trigger) (axis required : String) :
    skipReason? step.gate job trigger ≠ some (.noValue axis required) := by
  intro h
  obtain ⟨gate, hg, hreason⟩ := Option.bind_eq_some_iff.mp h
  obtain ⟨hvalue, hnone⟩ := Gate.reason?_eq_noValue hreason
  obtain ⟨v, -, hv⟩ := chosen axis (sound.gates step hs gate hg axis required hvalue).1
  rw [hnone] at hv
  cases hv

/-- A build is made of a declaration exactly if the declaration passes its check, and is refused with the error of
the check otherwise. It plans the steps of the declaration in their order, each with its command cut. On every job
of its expansion, each axis that a command mentions has one of the declared values, which is what is put in the
place of the placeholder, and no gate misses an axis. -/
theorem build_finds_declared_values (w : Workflow) (settings : Settings) :
    ((∃ b, Build.ofWorkflow w settings = .ok b) ↔ w.check = .ok ()) ∧
      (∀ e, Build.ofWorkflow w settings = .error e ↔ w.check = .error e) ∧
      ∀ b, Build.ofWorkflow w settings = .ok b →
        b.plan.map (·.step) = w.steps ∧ (∀ s ∈ b.plan, Template.parse s.step.command = .ok s.template) ∧
        ∀ jobs, b.expand = .ok jobs → ∀ job ∈ jobs, ∀ s ∈ b.plan,
          (∀ axis, .matrix axis ∈ s.template.placeholders → ∃ v ∈ w.valuesOf axis,
            job.value? axis = some v ∧ Template.valueOf job b.settings s.step.env (.matrix axis) = v) ∧
          ∀ trigger axis required, skipReason? s.step.gate job trigger ≠ some (.noValue axis required) := by
  refine ⟨?_, fun e => ofWorkflow_eq_error_iff_check, fun b hb => ?_⟩
  · simp [ofWorkflow_eq_ok_iff_check]
  · obtain ⟨checked, rfl⟩ := ofWorkflow_eq_ok_iff_check.mp hb
    have sound := isSound_of_check checked
    refine ⟨?_, ?_, fun jobs expands job hj => ?_⟩
    · simp [soundBuild, plannedSteps, Function.comp_def]
    · intro s hs
      obtain ⟨step, hstep, rfl⟩ := List.mem_map.mp hs
      exact parse_templateOf sound hstep
    · have chosen := chosen_of_expand expands job hj
      intro s hs
      obtain ⟨step, hstep, rfl⟩ := List.mem_map.mp hs
      refine ⟨fun axis hm => ?_, skipReason?_ne_noValue sound hstep chosen⟩
      obtain ⟨v, hv, hjob⟩ := chosen axis (mem_names_of_placeholder sound hstep hm)
      exact ⟨v, hv, hjob, by simp [Template.valueOf, hjob]⟩

theorem backendWorkflow_finds_declared_values :
    ∃ b jobs, Build.ofWorkflow backendWorkflow (.initial "/work") = .ok b ∧ b.expand = .ok jobs ∧ jobs ≠ [] ∧
      ∃ s ∈ b.plan, s.template.placeholders = [.matrix "backend"] ∧
        ∀ job ∈ jobs, job.value? "backend" = some "openssl" ∨ job.value? "backend" = some "mbedtls" := by
  obtain ⟨hmade, -, hbuild⟩ := build_finds_declared_values backendWorkflow (.initial "/work")
  obtain ⟨b, hb⟩ := hmade.mpr check_backendWorkflow
  obtain ⟨-, rfl⟩ := ofWorkflow_eq_ok_iff_check.mp hb
  have hjobs := expand_eq_ok (checkAxes_of_check check_backendWorkflow)
    (show combinationCount backendWorkflow.textAxes ≤ jobLimit by decide)
  have hplan : ∃ s ∈ backendWorkflow.plannedSteps, s.template.placeholders = [.matrix "backend"] := by
    decide +kernel
  obtain ⟨s, hs, hmentions⟩ := hplan
  refine ⟨_, _, hb, hjobs, by decide, s, hs, hmentions, fun job hj => ?_⟩
  have hmatrix : .matrix "backend" ∈ s.template.placeholders := by simp [hmentions]
  obtain ⟨v, hv, hjob, -⟩ := ((hbuild _ hb).2.2 _ hjobs job hj s hs).1 "backend" hmatrix
  have hvalues : backendWorkflow.valuesOf "backend" = ["openssl", "mbedtls"] := by decide
  rw [hvalues] at hv
  simpa [hjob] using hv

end Workflow
end JobMatrix
