import JobMatrix.Proofs.RunEvents

/-!
The bound on the jobs at work at the same time. A job holds its permit from before its start until after its outcome,
so no more jobs are between the two than there are permits, at any time of a run and in any order of the jobs.
-/
namespace JobMatrix
variable {b : Build} {tasks : Tasks} {trigger : Trigger} {may : Invocation → Reply → Prop} {jobs : List Job} {s t : RunState}
  {move : Move} {n : Nat}

def RunEvent.isStart : RunEvent → Bool
  | .job _ _ (.started _) => true
  | _ => false

def RunEvent.isOutcome : RunEvent → Bool
  | .job _ _ (.completed _) => true
  | _ => false

def Phase.isAsked : Phase → Bool
  | asked .. => true
  | _ => false

theorem Phase.hasPermit_of_isAtWork {phase : Phase} (h : phase.isAtWork = true) : phase.hasPermit = true := by
  cases phase with
  | waiting | admitted | told | gone => cases h
  | ready | asked | stopped => rfl

theorem Phase.isAtWork_of_isAsked {phase : Phase} (h : phase.isAsked = true) : phase.isAtWork = true := by
  cases phase with
  | asked => rfl
  | _ => cases h

theorem HasTold.isAtWork_iff {steps : Nat} {reports : List JobReport} {job : Job} {phase : Phase}
    {events : List JobEvent} (h : HasTold steps reports job phase events) :
    phase.isAtWork = true ↔ (∃ n, .started n ∈ events) ∧ ∀ outcome, .completed outcome ∉ events := by
  have hinner : ∀ inner : List JobEvent, (∀ e ∈ inner, e.place?.isSome = true) →
      (∃ n, .started n ∈ JobEvent.started steps :: inner) ∧
        ∀ outcome, .completed outcome ∉ JobEvent.started steps :: inner := by
    intro inner hplaces
    refine ⟨⟨steps, List.mem_cons_self⟩, fun outcome hm => ?_⟩
    rcases List.mem_cons.mp hm with heq | hm
    · cases heq
    · cases hplaces _ hm
  cases h with
  | waiting | admitted => simp [Phase.isAtWork]
  | ready places => exact iff_of_true rfl (hinner _ places.isSome)
  | asked places => exact iff_of_true rfl (hinner _ places.isSome)
  | stopped places => exact iff_of_true rfl (hinner _ places)
  | told own whole | gone known own whole =>
    obtain ⟨inner, rfl, -⟩ := whole
    exact iff_of_false Bool.false_ne_true fun hno => hno.2 _ List.mem_concat_self

theorem JobContext.Moves.countP_isStart {c : JobContext} {plan : Plan} {reply : Reply} {phase next : Phase}
    {events : List JobEvent} (h : c.Moves plan reply phase next events) (index : Nat) (name : String) :
    (events.map (.job index name)).countP RunEvent.isStart + (if phase.isAtWork then 1 else 0) =
      (events.map (.job index name)).countP RunEvent.isOutcome + if next.isAtWork then 1 else 0 := by
  cases h <;> rfl

theorem JobContext.Moves.eq_nil_or_singleton {c : JobContext} {plan : Plan} {reply : Reply} {phase next : Phase}
    {events : List JobEvent} (h : c.Moves plan reply phase next events) : events = [] ∨ ∃ e, events = [e] := by
  cases h with
  | crashes | ends => exact .inl rfl
  | _ => exact .inr ⟨_, rfl⟩

namespace Build

theorem Step.countP_isStart (goes : b.Step tasks trigger s move t)
    (h : s.log.countP RunEvent.isStart = s.log.countP RunEvent.isOutcome + s.lanes.countP (·.phase.isAtWork)) :
    t.log.countP RunEvent.isStart = t.log.countP RunEvent.isOutcome + t.lanes.countP (·.phase.isAtWork) := by
  cases goes with
  | acquire lane permit =>
    simpa [lane, List.countP_append, List.countP_cons, Phase.isAtWork] using h
  | @work before after job phase next reply events lane goes =>
    have hmoves := goes.countP_isStart job.index job.name
    simp only [lane, List.countP_append, List.countP_cons] at h ⊢
    omega
  | release lane =>
    simpa [lane, List.countP_append, List.countP_cons, Phase.isAtWork] using h
  | close gone unclosed =>
    have hclosing : [(b.summaryOf trigger s.reports).closing].countP RunEvent.isStart = 0 := rfl
    have houtcome : [(b.summaryOf trigger s.reports).closing].countP RunEvent.isOutcome = 0 := rfl
    rw [List.countP_append, List.countP_append, hclosing, houtcome]
    exact h

theorem countP_isStart_of_reachable (h : b.Reachable tasks trigger jobs may s) :
    s.log.countP RunEvent.isStart = s.log.countP RunEvent.isOutcome + s.lanes.countP (·.phase.isAtWork) := by
  induction h with
  | start =>
    simp [startingState, RunEvent.isStart, RunEvent.isOutcome, List.countP_map, Function.comp_def, Phase.isAtWork]
  | step move before comes given ih => exact (step_of_step? comes).countP_isStart ih

theorem Step.log_eq (goes : b.Step tasks trigger s move t) : t.log = s.log ∨ ∃ e, t.log = s.log ++ [e] := by
  cases goes with
  | acquire | release => exact .inl rfl
  | work lane goes =>
    rcases goes.eq_nil_or_singleton with rfl | ⟨e, rfl⟩
    · exact .inl (List.append_nil _)
    · exact .inr ⟨_, rfl⟩
  | close => exact .inr ⟨_, rfl⟩

theorem exists_reachable_of_prefix (h : b.Reachable tasks trigger jobs may s) {log : List RunEvent} (hl : log <+: s.log) :
    log = [] ∨ ∃ t, b.Reachable tasks trigger jobs may t ∧ t.log = log := by
  induction h with
  | start =>
    rcases List.prefix_concat_iff.mp (show log <+: [] ++ [_] from hl) with heq | hnil
    · exact .inr ⟨_, .start, heq.symm⟩
    · exact .inl (List.prefix_nil.mp hnil)
  | @step u v move before comes given ih =>
    have hself := before.step move comes given
    rcases (step_of_step? comes).log_eq with heq | ⟨e, heq⟩
    · exact ih (heq ▸ hl)
    · rw [heq] at hl
      rcases List.prefix_concat_iff.mp hl with hall | hl
      · exact .inr ⟨v, hself, heq.trans hall.symm⟩
      · exact ih hl

theorem held_of_allGone (gone : s.allGone = true) : s.held = 0 := by
  rw [RunState.held, List.length_eq_zero_iff, List.filter_eq_nil_iff]
  intro lane hl
  rw [RunState.phase_of_allGone gone hl]
  exact Bool.false_ne_true

theorem atWork_le (h : b.Reachable tasks trigger jobs may s) (hb : b.bound = some n) :
    s.lanes.countP (·.phase.isAtWork) ≤ n := by
  have hp := (inHand_of_reachable h).permits
  rw [hb, Option.map_eq_some_iff] at hp
  obtain ⟨free, -, hsum⟩ := hp
  have hheld : s.lanes.countP (·.phase.isAtWork) ≤ s.held := by
    rw [RunState.held, ← List.countP_eq_length_filter]
    exact List.countP_mono_left fun lane _ => Phase.hasPermit_of_isAtWork
  omega

/-- A job in which the runner has crashed tells its outcome and gives its permit back by moves of its own, whatever the
other jobs do. -/
theorem exists_steps_of_crashed (tasks : Tasks) (trigger : Trigger) {before after : List Lane} {job : Job}
    {done : List StepReport} {step : PlannedStep} {ahead : Plan} {message : Option String}
    (lane : s.lanes = before ++ ⟨job, .asked done step ahead ⟨[], .crashed message⟩⟩ :: after) (r u : Reply) :
    ∃ t, b.steps? tasks trigger s [.work before.length r, .work before.length u, .release before.length] = some t ∧
      t.lanes = before ++ ⟨job, .gone⟩ :: after ∧ t.free = s.free.map (· + 1) ∧
      t.log = s.log ++ [.job job.index job.name (.completed (.aborted (tasks.crashText job message)))] := by
  let outcome : Outcome := .aborted (tasks.crashText job message)
  let report := (b.context tasks job trigger).report b.plan [] (.crashed message)
  let crashed : RunState :=
    { s with lanes := before ++ ⟨job, .stopped [] (.crashed message)⟩ :: after, log := s.log ++ [] }
  let told : RunState :=
    { s with
      lanes := before ++ ⟨job, .told report⟩ :: after
      log := s.log ++ [] ++ [.job job.index job.name (.completed outcome)] }
  have hcrash : b.step? tasks trigger s (.work before.length r) = some crashed := step?_of_step (.work lane .crashes)
  have htell : b.step? tasks trigger crashed (.work before.length u) = some told := step?_of_step (.work rfl .tells)
  let gone : RunState :=
    { told with
      lanes := before ++ ⟨job, .gone⟩ :: after, free := s.free.map (· + 1), reports := s.reports ++ [report] }
  have hrelease : b.step? tasks trigger told (.release before.length) = some gone := step?_of_step (.release rfl)
  refine ⟨gone, ?_, rfl, rfl, ?_⟩
  · rw [steps?, List.foldlM_cons, hcrash, Option.bind_eq_bind, Option.bind_some, List.foldlM_cons, htell,
      Option.bind_eq_bind, Option.bind_some, List.foldlM_cons, hrelease]
    rfl
  · simp [gone, told, outcome]

structure KeepsBound (b : Build) (tasks : Tasks) (trigger : Trigger) (n : Nat) (s : RunState) : Prop where
  permits : ∃ free, s.free = some free ∧ free + s.held = n
  holders : ∀ lane ∈ s.lanes, (∃ steps, .started steps ∈ eventsOf lane.job.index s.log) →
    (∀ outcome, .completed outcome ∉ eventsOf lane.job.index s.log) → lane.phase.hasPermit = true
  started : ∀ log, log <+: s.log → log.countP RunEvent.isStart ≤ log.countP RunEvent.isOutcome + n
  asked : s.lanes.countP (·.phase.isAsked) ≤ n
  crashed : ∀ before after job done step ahead message,
    s.lanes = before ++ ⟨job, .asked done step ahead ⟨[], .crashed message⟩⟩ :: after → ∀ r u,
      ∃ t reason, b.steps? tasks trigger s [.work before.length r, .work before.length u, .release before.length] =
          some t ∧
        t.lanes = before ++ ⟨job, .gone⟩ :: after ∧ t.free = s.free.map (· + 1) ∧
        t.log = s.log ++ [.job job.index job.name (.completed (.aborted reason))]
  returned : s.summary.isSome = true → s.free = some n
  goesOn : (∃ lane ∈ s.lanes, lane.phase ≠ .gone) → ∀ answer, ∃ t, b.Follows tasks trigger answer s t
  closes : b.Closes tasks trigger s

theorem keepsBound_of_reachable (h : b.Reachable tasks trigger jobs may s) (distinct : (jobs.map Job.index).Nodup)
    (hb : b.bound = some n) (positive : 0 < n) : b.KeepsBound tasks trigger n s := by
  have hlogs := logs_of_reachable h distinct
  have hhand := hlogs.toInHand
  have hbound : b.bound ≠ some 0 := by
    rw [hb]
    simpa using Nat.ne_of_gt positive
  have hpermits : ∃ free, s.free = some free ∧ free + s.held = n := by
    have hp := hhand.permits
    rw [hb, Option.map_eq_some_iff] at hp
    exact hp
  refine ⟨hpermits, ?_, ?_, ?_, ?_, ?_, ?_, hhand.closes hbound⟩
  · intro lane hl hstart hno
    exact Phase.hasPermit_of_isAtWork ((hlogs.lanes lane hl).isAtWork_iff.mpr ⟨hstart, hno⟩)
  · intro log hl
    rcases exists_reachable_of_prefix h hl with rfl | ⟨u, hu, rfl⟩
    · simp
    · rw [countP_isStart_of_reachable hu]
      exact Nat.add_le_add_left (atWork_le hu hb) _
  · exact Nat.le_trans (List.countP_mono_left fun lane _ => Phase.isAtWork_of_isAsked) (atWork_le h hb)
  · intro before after job done step ahead message lane r u
    obtain ⟨t, hsteps, hlanes, hfree, hlog⟩ := b.exists_steps_of_crashed tasks trigger lane r u
    exact ⟨t, _, hsteps, hlanes, hfree, hlog⟩
  · intro hsum
    obtain ⟨summary, hs⟩ := Option.isSome_iff_exists.mp hsum
    have hnone := held_of_allGone (hhand.closed summary hs).1
    obtain ⟨free, hfree, hsum⟩ := hpermits
    rw [hfree, ← hsum, hnone, Nat.add_zero]
  · rintro ⟨lane, hl, hleft⟩ answer
    exact hhand.goesOn hbound (hhand.summary_eq_none hl hleft) answer

theorem reachable_of_steps? (h : b.Reachable tasks trigger jobs (fun _ _ => True) s) {moves : List Move}
    (hm : b.steps? tasks trigger s moves = some t) : b.Reachable tasks trigger jobs (fun _ _ => True) t := by
  induction moves generalizing s with
  | nil =>
    cases hm
    exact h
  | cons move moves ih =>
    rw [steps?, List.foldlM_cons, Option.bind_eq_bind, Option.bind_eq_some_iff] at hm
    obtain ⟨u, hu, hm⟩ := hm
    exact ih (h.step move hu fun _ _ _ _ => trivial) hm

theorem acquire_of_unbounded (h : b.Reachable tasks trigger jobs may s) (hb : b.bound = none) :
    s.free = none ∧ ∀ before job after, s.lanes = before ++ ⟨job, .waiting⟩ :: after →
      (b.step? tasks trigger s (.acquire before.length)).isSome = true := by
  have hp := (inHand_of_reachable h).permits
  rw [hb, Option.map_eq_none_iff] at hp
  refine ⟨hp, fun before job after lane => ?_⟩
  have hpermit : RunState.takePermit? s.free = some none := by rw [hp]; rfl
  rw [step?_of_step (.acquire lane hpermit)]
  rfl

/-- The bound of a run is the one that is given, or else the declared one. Whatever the runner answers and whoever's
turn it is, a run under a bound keeps it in every state and comes to its end; a bound of zero is no bound, and lets
every job begin at any time. -/
theorem bounded_run_keepsBound {w : Workflow} {settings : Settings} {base : Build}
    (checked : ofWorkflow w settings = .ok base) (override : Option Nat) (distinct : (jobs.map Job.index).Nodup)
    (tasks : Tasks) (trigger : Trigger) :
    let b := base.underBound override
    (∀ n, 0 < n → override.or w.maxParallel = some n →
      ∀ may s, b.Reachable tasks trigger jobs may s → b.KeepsBound tasks trigger n s) ∧
    (override.or w.maxParallel = none ∨ override.or w.maxParallel = some 0 →
      ∀ may s, b.Reachable tasks trigger jobs may s → s.free = none ∧
        ∀ before job after, s.lanes = before ++ ⟨job, .waiting⟩ :: after →
          (b.step? tasks trigger s (.acquire before.length)).isSome = true) := by
  intro b
  have hbound : b.bound = (override.or w.maxParallel).bind parallelBound := bound_underBound checked override
  constructor
  · intro n positive hn may s hs
    have hb : b.bound = some n := by
      rw [hbound, hn, Option.bind_some, parallelBound, if_neg (Nat.ne_of_gt positive)]
    exact keepsBound_of_reachable hs distinct hb positive
  · intro hzero may s hs
    have hb : b.bound = none := by
      rcases hzero with hn | hn
      · rw [hbound, hn]
        rfl
      · rw [hbound, hn]
        rfl
    exact acquire_of_unbounded hs hb

/-- Two of the three jobs of the tests are at work, and the third waits for a permit: the runner has just crashed in
the one, and is at work on the first step of the other. -/
theorem systemTests_keepsBound :
    ofWorkflow systemTests systemTestsBuild.settings = .ok systemTestsBuild ∧
      ∃ jobs s, systemTestsBuild.expand = .ok jobs ∧ (jobs.map Job.index).Nodup ∧
        systemTestsBuild.steps? .numbered .push (systemTestsBuild.startingState .push jobs)
          [.acquire 2, .acquire 0, .work 2 .silent, .work 0 .silent, .work 0 .silent,
            .work 2 ⟨[], .crashed (some "lost")⟩] = some s ∧
        s.free = some 0 ∧ s.lanes.countP (·.phase.isAsked) = 2 ∧ systemTestsBuild.KeepsBound .numbered .push 2 s ∧
        ∀ t, (systemTestsBuild.underBound (some 0)).Reachable .numbered .push jobs (fun _ _ => True) t →
          t.free = none := by
  let jobs := (List.range 3).map (jobAt systemTestsBuild.axes systemTestsBuild.toolchain)
  have distinct : (jobs.map Job.index).Nodup := by decide +kernel
  have hbound := bounded_run_keepsBound ofWorkflow_systemTests none distinct .numbered .push
  have hzero := bounded_run_keepsBound ofWorkflow_systemTests (some 0) distinct .numbered .push
  have hs : ∃ s, systemTestsBuild.steps? .numbered .push (systemTestsBuild.startingState .push jobs)
      [.acquire 2, .acquire 0, .work 2 .silent, .work 0 .silent, .work 0 .silent,
        .work 2 ⟨[], .crashed (some "lost")⟩] = some s ∧ s.free = some 0 ∧ s.lanes.countP (·.phase.isAsked) = 2 := by
    refine ⟨_, rfl, ?_, ?_⟩
    · decide +kernel
    · decide +kernel
  obtain ⟨s, hs, hfree, hasked⟩ := hs
  refine ⟨ofWorkflow_systemTests, jobs, s, expand_systemTests, distinct, hs, hfree, hasked, ?_, ?_⟩
  · exact hbound.1 2 (by decide) rfl (fun _ _ => True) s (reachable_of_steps? .start hs)
  · exact fun t ht => (hzero.2 (.inr rfl) (fun _ _ => True) t ht).1

end Build
end JobMatrix
