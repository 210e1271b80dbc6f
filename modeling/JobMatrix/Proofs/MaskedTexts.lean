import JobMatrix.Proofs.TokenMask
import JobMatrix.Run.Build

/-!
The texts that a rehearsal and a run of a job show masked: commands, lines of output, and errors. Each of them has
passed through the mask, whatever the runner writes and however it ends, so the token leaks through none of them
if masking erases it for good, and leaks through some of them if not.
-/
namespace JobMatrix
variable {σ : Type} {c : JobContext} {settings : Settings} {text : String}

def JobEvent.maskedText? : JobEvent → Option String
  | stepStarted _ _ command => some command
  | stepOutput _ line _ => some line
  | started _ | stepSkipped .. | stepCompleted .. | completed _ => none

def StepReport.maskedTexts (r : StepReport) : List String := r.command.toList ++ r.error.toList

/-- Every text that is shown masked when a job is run and rehearsed. -/
def Build.maskedTexts (b : Build) (tasks : Tasks) (job : Job) (trigger : Trigger) (runner : Runner σ) (state : σ) :
    List String :=
  let run := b.runJob tasks job trigger runner state
  run.events.filterMap JobEvent.maskedText? ++ run.report.steps.flatMap StepReport.maskedTexts ++
    (b.rehearse job trigger).filterMap (·.command)

def Settings.IsMasked (settings : Settings) (text : String) : Prop := ∃ raw, settings.mask raw = text

def JobEvent.IsMasked (settings : Settings) (e : JobEvent) : Prop :=
  ∀ text ∈ e.maskedText?, settings.IsMasked text

def StepReport.IsMasked (settings : Settings) (r : StepReport) : Prop :=
  ∀ text ∈ r.maskedTexts, settings.IsMasked text

theorem StepReport.isMasked_idle (settings : Settings) (name : String) (status : StepStatus) :
    (StepReport.idle name status).IsMasked settings := by
  simp [IsMasked, maskedTexts, idle]

namespace JobContext

theorem isMasked_shownCommand (c : JobContext) (s : PlannedStep) : c.settings.IsMasked (c.shownCommand s) :=
  ⟨_, rfl⟩

theorem isMasked_stepReport (c : JobContext) (s : PlannedStep) (code : Option Int) (errors : String) :
    (c.stepReport s code errors).IsMasked c.settings := by
  intro text ht
  rcases List.mem_append.mp ht with ht | ht
  · have heq : text = c.shownCommand s := by simpa [stepReport] using ht
    exact heq ▸ c.isMasked_shownCommand s
  · obtain ⟨-, heq⟩ : _ ∧ c.settings.mask errors = text := by
      simpa [stepReport, Option.ite_none_left_eq_some] using ht
    exact ⟨errors, heq⟩

theorem isMasked_outputEvents (c : JobContext) (index : Nat) (lines : List OutputLine) :
    ∀ e ∈ c.outputEvents index lines, e.IsMasked c.settings := by
  intro e he text ht
  obtain ⟨line, -, rfl⟩ := List.mem_map.mp he
  cases ht
  exact ⟨line.text, rfl⟩

theorem isMasked_stepStarted (c : JobContext) (index : Nat) (s : PlannedStep) :
    (JobEvent.stepStarted index s.step.name (c.shownCommand s)).IsMasked c.settings := by
  rintro text ⟨⟩
  exact c.isMasked_shownCommand s

theorem isMasked_stepEvents (c : JobContext) (index : Nat) (s : PlannedStep) (lines : List OutputLine)
    (code : Option Int) : ∀ e ∈ c.stepEvents index s lines code, e.IsMasked c.settings := by
  simp only [stepEvents, List.forall_mem_append, List.forall_mem_cons]
  exact ⟨⟨c.isMasked_stepStarted index s, c.isMasked_outputEvents index lines⟩, by rintro _ ⟨⟩, by simp⟩

/-- Whatever the runner answers, the steps of a plan show masked texts alone, by induction over the plan. -/
theorem isMasked_runSteps (c : JobContext) (runner : Runner σ) (plan : Plan) (index : Nat) (state : σ) :
    (∀ e ∈ (c.runSteps runner plan index state).events, e.IsMasked c.settings) ∧
      ∀ r ∈ (c.runSteps runner plan index state).steps, r.IsMasked c.settings := by
  induction plan generalizing index state with
  | nil => simp [runSteps]
  | cons s rest ih =>
    cases hg : c.skipReason? s with
    | some reason =>
      simp only [runSteps, hg, List.forall_mem_cons]
      have hlater := ih (index + 1) state
      exact ⟨⟨by rintro _ ⟨⟩, hlater.1⟩, StepReport.isMasked_idle _ _ _, hlater.2⟩
    | none =>
      rcases ha : runner state (c.invocation s) with ⟨⟨lines, ending⟩, next⟩
      cases ending with
      | crashed message =>
        simp only [runSteps, hg, ha, List.forall_mem_cons]
        exact ⟨⟨c.isMasked_stepStarted index s, c.isMasked_outputEvents index lines⟩, by simp⟩
      | exited code errors =>
        have hreport := c.isMasked_stepReport s code errors
        have hevents := c.isMasked_stepEvents index s lines code
        cases hs : isSuccess code with
        | true =>
          have hlater := ih (index + 1) next
          simp only [runSteps, hg, ha, hs, if_true, List.forall_mem_cons, List.forall_mem_append]
          exact ⟨⟨hevents, hlater.1⟩, hreport, hlater.2⟩
        | false =>
          simp only [runSteps, hg, ha, hs, Bool.false_eq_true, if_false, List.forall_mem_cons]
          refine ⟨hevents, hreport, fun r hr => ?_⟩
          obtain ⟨t, -, rfl⟩ := List.mem_map.mp hr
          exact StepReport.isMasked_idle _ _ _

theorem isMasked_report (c : JobContext) (plan : Plan) {steps : List StepReport} (stop : Stop)
    (h : ∀ r ∈ steps, r.IsMasked c.settings) : ∀ r ∈ (c.report plan steps stop).steps, r.IsMasked c.settings := by
  cases stop with
  | completed | failed => exact h
  | crashed message =>
    intro r hr
    obtain ⟨t, -, rfl⟩ := List.mem_map.mp hr
    exact StepReport.isMasked_idle _ _ _

end JobContext

theorem Build.isMasked_of_mem_maskedTexts {b : Build} {tasks : Tasks} {job : Job} {trigger : Trigger}
    {runner : Runner σ} {state : σ} (h : text ∈ b.maskedTexts tasks job trigger runner state) :
    b.settings.IsMasked text := by
  obtain ⟨hevents, hsteps⟩ := (b.context tasks job trigger).isMasked_runSteps runner b.plan 0 state
  simp only [maskedTexts, List.mem_append, List.mem_filterMap, List.mem_flatMap] at h
  rcases h with (⟨e, he, ht⟩ | ⟨r, hr, ht⟩) | ⟨told, htold, ht⟩
  · let c := b.context tasks job trigger
    have hrun : e = .started b.plan.length ∨ e ∈ (c.runSteps runner b.plan 0 state).events ∨
        e = .completed (c.outcome (c.runSteps runner b.plan 0 state).stop) := by
      simpa [runJob, JobContext.run] using he
    rcases hrun with rfl | he | rfl
    · cases ht
    · exact hevents e he text ht
    · cases ht
  · exact (b.context tasks job trigger).isMasked_report b.plan _ hsteps r hr text ht
  · obtain ⟨s, -, rfl⟩ := List.mem_map.mp htold
    cases hg : skipReason? s.step.gate job trigger with
    | some reason => simp [hg] at ht
    | none =>
      have heq : s.template.display job b.settings s.step.env = text := by simpa [hg] using ht
      exact heq ▸ (b.context tasks job trigger).isMasked_shownCommand s

def tokenBuild (token : String) : Build :=
  ⟨"upload", [⟨"os", ["linux"]⟩], none, none, [⟨⟨"report", "", none, none, .empty, none⟩, ⟨[]⟩⟩],
    (Settings.initial "/work").withToken token⟩

def writes (text : String) : Runner Unit := .ofFunction fun _ => ⟨[⟨text, false⟩], .exited (some 0) ""⟩

theorem maskWith_mem_maskedTexts (token text : String) (tasks : Tasks) (job : Job) (trigger : Trigger) :
    maskWith token text ∈ (tokenBuild token).maskedTexts tasks job trigger (writes text) () := by
  simp [Build.maskedTexts, Build.runJob, Build.context, JobContext.run, JobContext.runSteps,
    JobContext.skipReason?, skipReason?, tokenBuild, writes, Runner.ofFunction, isSuccess, JobContext.stepEvents,
    JobContext.outputEvents, JobEvent.maskedText?, Settings.mask, Settings.withToken]

/-- Nothing that is shown masked contains the token, whatever the plan, the job, the environment and the runner,
exactly if the token neither begins nor ends with a star and does not contain the mask. -/
theorem masked_texts_hide_token_iff {token : String} (nonempty : token ≠ "") :
    (∀ (σ : Type) (b : Build) (tasks : Tasks) (job : Job) (trigger : Trigger) (runner : Runner σ) (state : σ),
      b.settings.token = some token →
        ∀ text ∈ b.maskedTexts tasks job trigger runner state, ¬ token.toList <:+: text.toList) ↔
      IsErasable token := by
  constructor
  · intro hides
    by_contra h
    obtain ⟨text, leaks⟩ := exists_infix_maskWith h nonempty
    have hm := maskWith_mem_maskedTexts token text .numbered ⟨0, .empty, .stable⟩ .manual
    exact hides Unit (tokenBuild token) _ _ _ _ _ rfl _ hm leaks
  · intro h σ b tasks job trigger runner state ht text hm
    obtain ⟨raw, rfl⟩ := Build.isMasked_of_mem_maskedTexts hm
    simpa only [Settings.mask, ht] using h.not_infix_maskWith nonempty raw

theorem masked_texts_hide_plain_token :
    "s3cret" ≠ "" ∧ ∀ (σ : Type) (b : Build) (tasks : Tasks) (job : Job) (trigger : Trigger) (runner : Runner σ)
        (state : σ), b.settings.token = some "s3cret" →
        ∀ text ∈ b.maskedTexts tasks job trigger runner state, ¬ "s3cret".toList <:+: text.toList := by
  have erasable : IsErasable "s3cret" := ⟨by decide, by decide, by decide⟩
  exact ⟨by decide, (masked_texts_hide_token_iff (by decide)).mpr erasable⟩

end JobMatrix
