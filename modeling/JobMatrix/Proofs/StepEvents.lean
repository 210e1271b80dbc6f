import JobMatrix.Proofs.StepOrder

/-!
The events of one step, picked out of the log of a job by the place that they carry. A skipped step says why, an
executed one starts, writes its output and completes, and one that is not run leaves no event.
-/
namespace JobMatrix
variable {σ : Type} {c : JobContext} {runner : Runner σ} {plan : Plan} {index place : Nat} {state : σ}
  {trace : Trace σ}

def JobEvent.place? : JobEvent → Option Nat
  | stepSkipped place .. | stepStarted place .. | stepOutput place .. | stepCompleted place .. => some place
  | started _ | completed _ => none

def eventsAt (place : Nat) (events : List JobEvent) : List JobEvent :=
  events.filter (·.place? == some place)

theorem mem_eventsAt_iff {events : List JobEvent} {e : JobEvent} (h : e.place? = some place) :
    e ∈ eventsAt place events ↔ e ∈ events := by
  simp [eventsAt, h]

theorem eventsAt_first {now later : List JobEvent} (hn : ∀ e ∈ now, e.place? = some place)
    (hl : ∀ e ∈ later, e.place? ≠ some place) : eventsAt place (now ++ later) = now := by
  have hnow : now.filter (·.place? == some place) = now := List.filter_eq_self.mpr fun e he => by simp [hn e he]
  have hlater : later.filter (·.place? == some place) = [] :=
    List.filter_eq_nil_iff.mpr fun e he => by simpa using hl e he
  rw [eventsAt, List.filter_append, hnow, hlater, List.append_nil]

theorem eventsAt_later {now later : List JobEvent} (hn : ∀ e ∈ now, e.place? = some index)
    (hne : index ≠ place) : eventsAt place (now ++ later) = eventsAt place later := by
  have hnow : now.filter (·.place? == some place) = [] :=
    List.filter_eq_nil_iff.mpr fun e he => by simpa [hn e he] using hne
  rw [eventsAt, List.filter_append, hnow, List.nil_append, eventsAt]

namespace JobContext

inductive StepLeaves (c : JobContext) (place : Nat) (s : PlannedStep) : StepReport → List JobEvent → Prop
  | skipped {reason : SkipReason} (excluded : c.skipReason? s = some reason) :
      StepLeaves c place s (.idle s.step.name .skipped) [.stepSkipped place s.step.name reason.message]
  | executed {lines : List OutputLine} {code : Option Int} {errors : String}
      (applies : c.skipReason? s = none) :
      StepLeaves c place s (c.stepReport s code errors) (c.stepEvents place s lines code)
  | notRun : StepLeaves c place s (.idle s.step.name .notRun) []

theorem place?_of_mem_stepEvents {s : PlannedStep} {lines : List OutputLine} {code : Option Int} {e : JobEvent}
    (h : e ∈ c.stepEvents place s lines code) : e.place? = some place := by
  simp only [stepEvents, outputEvents, List.cons_append, List.mem_cons, List.mem_append, List.mem_map,
    List.not_mem_nil, or_false] at h
  obtain rfl | ⟨line, -, rfl⟩ | rfl := h <;> rfl

theorem Leaves.le_place (h : c.Leaves runner plan index state trace) {e : JobEvent} (he : e ∈ trace.events) :
    ∃ place, e.place? = some place ∧ index ≤ place := by
  induction h with
  | nil => cases he
  | @skipped s rest index state reason later excluded goes ih =>
    rcases List.mem_cons.mp he with rfl | he
    · exact ⟨index, rfl, Nat.le_refl index⟩
    · obtain ⟨place, hp, hle⟩ := ih he
      exact ⟨place, hp, by omega⟩
  | @succeeded s rest index state next lines code errors later applies answered success goes ih =>
    rcases List.mem_append.mp he with he | he
    · exact ⟨index, place?_of_mem_stepEvents he, Nat.le_refl index⟩
    · obtain ⟨place, hp, hle⟩ := ih he
      exact ⟨place, hp, by omega⟩
  | failed => exact ⟨_, place?_of_mem_stepEvents he, Nat.le_refl _⟩

theorem Leaves.place?_ne_of_lt (h : c.Leaves runner plan index state trace) (hlt : place < index) :
    ∀ e ∈ trace.events, e.place? ≠ some place := by
  intro e he hp
  obtain ⟨later, hl, hle⟩ := h.le_place he
  have heq : later = place := Option.some.inj (hl.symm.trans hp)
  omega

theorem StepLeaves.place?_eq {s : PlannedStep} {r : StepReport} {events : List JobEvent}
    (h : c.StepLeaves place s r events) : ∀ e ∈ events, e.place? = some place := by
  cases h with
  | skipped excluded => simp [JobEvent.place?]
  | executed applies => exact fun e he => place?_of_mem_stepEvents he
  | notRun => simp

theorem StepLeaves.cons {t : PlannedStep} {rest : Plan} {first : StepReport} {reports : List StepReport}
    {now later : List JobEvent} (hfirst : c.StepLeaves index t first now)
    (hother : ∀ e ∈ later, e.place? ≠ some index)
    (hlater : ∀ {i s r}, rest[i]? = some s → reports[i]? = some r →
      c.StepLeaves (index + 1 + i) s r (eventsAt (index + 1 + i) later))
    {i : Nat} {s : PlannedStep} {r : StepReport} (hs : (t :: rest)[i]? = some s)
    (hr : (first :: reports)[i]? = some r) :
    c.StepLeaves (index + i) s r (eventsAt (index + i) (now ++ later)) := by
  cases i with
  | zero =>
    cases hs
    cases hr
    rw [Nat.add_zero, eventsAt_first hfirst.place?_eq hother]
    exact hfirst
  | succ i =>
    have hplace : index + (i + 1) = index + 1 + i := by omega
    rw [eventsAt_later hfirst.place?_eq (by omega), hplace]
    exact hlater hs hr

/-- Every step of the plan leaves its report and its events at its own place, whatever the other steps leave. -/
theorem Leaves.stepLeaves (h : c.Leaves runner plan index state trace) {i : Nat} {s : PlannedStep}
    {r : StepReport} (hs : plan[i]? = some s) (hr : trace.steps[i]? = some r) :
    c.StepLeaves (index + i) s r (eventsAt (index + i) trace.events) := by
  induction h generalizing i s r with
  | nil => cases hs
  | @skipped t rest index state reason later excluded goes ih =>
    exact (StepLeaves.skipped excluded).cons (goes.place?_ne_of_lt (Nat.lt_succ_self index)) ih hs hr
  | @succeeded t rest index state next lines code errors later applies answered success goes ih =>
    exact (StepLeaves.executed applies).cons (goes.place?_ne_of_lt (Nat.lt_succ_self index)) ih hs hr
  | @failed t rest index state next lines code errors applies answered failure =>
    rw [← List.append_nil (c.stepEvents index t lines code)]
    refine (StepLeaves.executed applies).cons (by simp) (fun {j u q} hu hq => ?_) hs hr
    obtain ⟨v, hv, rfl⟩ : ∃ v, rest[j]? = some v ∧ .idle v.step.name .notRun = q := by
      simpa using hq
    cases hu.symm.trans hv
    exact .notRun

theorem eventsAt_run (c : JobContext) (plan : Plan) (runner : Runner σ) (state : σ) (place : Nat) :
    eventsAt place (c.run plan runner state).events = eventsAt place (c.runSteps runner plan 0 state).events := by
  simp [run, eventsAt, JobEvent.place?]

theorem run_stepLeaves (c : JobContext) {plan : Plan} (steady : runner.IsSteady) (state : σ) {s : PlannedStep}
    {r : StepReport} (hs : plan[place]? = some s) (hr : (c.run plan runner state).report.steps[place]? = some r) :
    c.StepLeaves place s r (eventsAt place (c.run plan runner state).events) := by
  have h := c.leaves_runSteps steady plan 0 state
  have hreport : (c.run plan runner state).report = ⟨c.job, _, _⟩ := report_of_leaves h
  rw [hreport] at hr
  rw [eventsAt_run]
  simpa only [Nat.zero_add] using h.stepLeaves hs hr

end JobContext
end JobMatrix
