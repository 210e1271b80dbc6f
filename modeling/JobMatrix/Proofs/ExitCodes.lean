import JobMatrix.Proofs.CommandEnds
import JobMatrix.Proofs.RunInOrder
import JobMatrix.Proofs.SoundBuild

/-!
The exit codes of the commands. A text that is no declaration, or a declaration that does not pass its check, is
refused with exit code 2 by every command. A declaration of too many jobs is refused so by the commands that expand it,
and is an error with exit code 1 for the one that only counts its jobs. With any other declaration a run ends with exit
code 1 exactly if some job does not succeed, and the other commands end with exit code 0. The commands that make a build
need a directory, and where none is given or can be told they end with an error and exit code 1.
-/
namespace JobMatrix
variable {σ : Type} {w : Workflow} {settings : Settings} {b : Build} {jobs : List Job} {e : DeclarationError}
  {trigger : Trigger}

namespace Workflow

theorem expansion_of_check (checked : w.check = .ok ()) :
    w.expansion = (jobCount w.textAxes).map fun count => (List.range count).map (jobAt w.textAxes w.toolchain) := by
  have haxes : w.expansion = expand w.textAxes w.toolchain := by
    rw [expansion, axes_of_check checked]
    rfl
  rw [haxes, expand, checkAxes_of_check checked]
  cases jobCount w.textAxes <;> rfl

theorem jobCount_of_expansion_error (checked : w.check = .ok ()) (large : w.expansion = .error e) :
    jobCount w.textAxes = .error e := by
  rw [expansion_of_check checked] at large
  cases hc : jobCount w.textAxes with
  | ok count =>
    rw [hc] at large
    cases large
  | error d =>
    rw [hc] at large
    cases large
    rfl

theorem exists_jobCount_of_expansion (checked : w.check = .ok ()) (expands : w.expansion = .ok jobs) :
    ∃ count, jobCount w.textAxes = .ok count := by
  rw [expansion_of_check checked] at expands
  cases hc : jobCount w.textAxes with
  | ok count => exact ⟨count, rfl⟩
  | error d =>
    rw [hc] at expands
    cases expands

end Workflow

theorem Summary.success_iff (summary : Summary) :
    summary.success = true ↔ ∀ report ∈ summary.jobs, report.outcome = .success := by
  simp only [success, List.all_eq_true, Outcome.isSuccess_iff]

namespace Cli
variable {s : Surroundings σ} {i : Invoked} {arguments : List String} {text : String} {P : Finish → Prop}

/-- The arguments name a file with the text, an event, and variables with their values. -/
structure Invoked.IsSound (i : Invoked) (s : Surroundings σ) (trigger : Trigger) (text : String) : Prop where
  file : s.Holds i.path text
  event : Trigger.parse ((i.value? .event).getD "manual") = .ok trigger
  assigned : ∀ entry ∈ i.values .env, (assignment? entry).isSome = true

/-- There is a directory if the command needs one. -/
def Invoked.IsPlaced (i : Invoked) (s : Surroundings σ) : Prop :=
  i.command = .validate ∨ ∃ directory, directoryFor s i = .ok directory

/-- The exit code tells whether all jobs succeeded. -/
structure Finish.Judges (finish : Finish) (summary : Summary) : Prop where
  failure : finish.exitCode = 1 ↔ ∃ report ∈ summary.jobs, report.outcome ≠ .success
  success : finish.exitCode = 0 ↔ ∀ report ∈ summary.jobs, report.outcome = .success

/-- How a run ends when its jobs are known. It comes to a summary with a report for each of them, and the exit code tells
how they end; the run is one of the courses in which the jobs can go on side by side, and any other course of them
ends as its own summary has it. Under a bound that cannot be kept none of the jobs begins. -/
structure Finish.EndsRun (finish : Finish) (s : Surroundings σ) (i : Invoked) (b : Build) (trigger : Trigger)
    (jobs : List Job) : Prop where
  kept : (∀ n ∈ b.bound, n ≤ greatestBound) →
    ∃ r, b.run s.tasks trigger s.runner s.state = .ok r ∧ r.summary.jobs.map (·.job) = jobs ∧
      finish.Judges r.summary ∧
      ∃ t, b.Reachable s.tasks trigger jobs s.runner.Gives t ∧ t.summary = some r.summary ∧ t.log = r.events
  everyCourse : ∀ may t summary, b.Reachable s.tasks trigger jobs may t → t.summary = some summary →
    summary.jobs.map (·.job) = jobs ∧ ∀ printed, ((conclude i.flags t.log summary).finish printed).Judges summary
  unkept : ∀ n ∈ b.bound, greatestBound < n → ∃ message, finish.Reports message

inductive Finish.IsDue (finish : Finish) (s : Surroundings σ) (i : Invoked) (trigger : Trigger) (text : String) : Prop
  | unreadable {error : ReadError} (read : Workflow.ofText text = .error error)
      (ends : ∃ problem, finish.Refuses ("Parse error: " ++ problem))
  | unplaced {w : Workflow} {problem : String} (read : Workflow.ofText text = .ok w) (command : i.command ≠ .validate)
      (unplaced : directoryFor s i = .error problem) (ends : finish.Reports problem)
  | refused {w : Workflow} {e : DeclarationError} (read : Workflow.ofText text = .ok w) (placed : i.IsPlaced s)
      (refused : w.check = .error e) (ends : finish.Refuses (if i.command = .validate then e.message else e.fullMessage))
  | tooLarge {w : Workflow} {e : DeclarationError} (read : Workflow.ofText text = .ok w) (placed : i.IsPlaced s)
      (checked : w.check = .ok ()) (large : w.expansion = .error e)
      (ends : if i.command = .validate then finish.Reports e.message else finish.Refuses e.fullMessage)
  | listed {w : Workflow} {jobs : List Job} (read : Workflow.ofText text = .ok w) (placed : i.IsPlaced s)
      (checked : w.check = .ok ()) (expands : w.expansion = .ok jobs) (command : i.command ≠ .run)
      (ends : finish.exitCode = 0 ∧ finish.report = none)
  | ran {w : Workflow} {jobs : List Job} {settings : Settings} {base : Build} (read : Workflow.ofText text = .ok w)
      (checked : w.check = .ok ()) (expands : w.expansion = .ok jobs) (command : i.command = .run)
      (settled : settingsFor s i w = .ok settings) (built : Build.ofWorkflow w settings = .ok base)
      (ends : finish.EndsRun s i (base.underBound i.bound?) trigger jobs)

theorem perform_of_reads (reads : readArguments arguments = .ok i) :
    perform s arguments = .ok ((execute s i).finish []) := by
  rw [perform, reads]
  rfl

theorem stops_execute_of_unreadable {error : ReadError} (sound : i.IsSound s trigger text)
    (h : Workflow.ofText text = .error error) :
    (execute s i).Stops fun finish => ∃ problem, finish.Refuses ("Parse error: " ++ problem) := by
  have hstop := stops_theWorkflow sound.file h
  rw [execute]
  cases i.command with
  | validate =>
    rw [validate]
    exact (yields_print _).stops (hstop.bind _)
  | matrix =>
    rw [matrix]
    exact (yields_theTrigger sound.event).stops (hstop.bind _)
  | run =>
    rw [run]
    exact (yields_theTrigger sound.event).stops ((yields_print _).stops (hstop.bind _))

theorem stops_validate_of_refused (sound : i.IsSound s trigger text) (h : Workflow.ofText text = .ok w)
    (refused : w.check = .error e) : (validate s i).Stops (·.Refuses e.message) := by
  rw [validate]
  refine (yields_print _).stops ((yields_theWorkflow sound.file h).stops ((yields_print _).stops ?_))
  simp only [refused]
  intro printed
  cases e.step? with
  | none => exact ⟨⟨2, printed ++ [.error e.message], none⟩, rfl, rfl, by simp, rfl⟩
  | some step =>
    exact ⟨⟨2, printed ++ [.error e.message] ++ [.info ("  In step: " ++ step)], none⟩, rfl, rfl, by simp, rfl⟩

theorem stops_validate_of_tooLarge (sound : i.IsSound s trigger text) (h : Workflow.ofText text = .ok w)
    (checked : w.check = .ok ()) (large : w.expansion = .error e) :
    (validate s i).Stops (·.Reports e.message) := by
  have hcount := Workflow.jobCount_of_expansion_error checked large
  rw [validate]
  refine (yields_print _).stops ((yields_theWorkflow sound.file h).stops ((yields_print _).stops ?_))
  simp only [checked, Workflow.axes_of_check checked, Except.bind, hcount, Except.map]
  exact (stops_report e.message).bind _

theorem yields_validate (sound : i.IsSound s trigger text) (h : Workflow.ofText text = .ok w)
    (checked : w.check = .ok ()) (expands : w.expansion = .ok jobs) : (validate s i).Yields () := by
  obtain ⟨count, hcount⟩ := Workflow.exists_jobCount_of_expansion checked expands
  rw [validate]
  refine (yields_print _).bind ((yields_theWorkflow sound.file h).bind ((yields_print _).bind ?_))
  simp only [checked, Workflow.axes_of_check checked, Except.bind, hcount, Except.map]
  refine (yields_print _).bind ?_
  cases w.toolchain with
  | none => exact (yields_print _).bind (yields_print _)
  | some t => exact (yields_print _).bind (yields_print _)

/-- What the commands do that make a build, up to the point where they have it. -/
def prepared (s : Surroundings σ) (i : Invoked) (next : Workflow → Build → Action Unit) : Action Unit := do
  let w ← theWorkflow s i.path
  let settings ← theSettings s i w
  let build ← accept (Build.ofWorkflow w settings)
  next w build

section Prepared
variable {next : Workflow → Build → Action Unit}

theorem stops_prepared_of_unplaced {problem : String} (sound : i.IsSound s trigger text)
    (h : Workflow.ofText text = .ok w) (unplaced : directoryFor s i = .error problem)
    (next : Workflow → Build → Action Unit) : (prepared s i next).Stops (·.Reports problem) :=
  (yields_theWorkflow sound.file h).stops ((stops_theSettings unplaced w).bind _)

theorem stops_prepared_of_refused (sound : i.IsSound s trigger text)
    (settled : (theSettings s i w).Yields settings) (h : Workflow.ofText text = .ok w)
    (refused : w.check = .error e) (next : Workflow → Build → Action Unit) :
    (prepared s i next).Stops (·.Refuses e.fullMessage) := by
  have hbuild : Build.ofWorkflow w settings = .error e := Workflow.ofWorkflow_eq_error_iff_check.mpr refused
  exact (yields_theWorkflow sound.file h).stops (settled.stops ((stops_accept hbuild).bind _))

theorem leadsTo_prepared (sound : i.IsSound s trigger text) (settled : (theSettings s i w).Yields settings)
    (h : Workflow.ofText text = .ok w) (hbuild : Build.ofWorkflow w settings = .ok b)
    (next : Workflow → Build → Action Unit) : (prepared s i next).LeadsTo (next w b) := by
  refine ((yields_theWorkflow sound.file h).leadsTo _).trans ?_
  exact (settled.leadsTo _).trans ((yields_accept hbuild).leadsTo _)

end Prepared

theorem stops_execute_of_prepared (sound : i.IsSound s trigger text) (command : i.command ≠ .validate)
    (hstop : ∀ next, (prepared s i next).Stops P) : (execute s i).Stops P := by
  rw [execute]
  cases hcommand : i.command with
  | validate => exact absurd hcommand command
  | matrix =>
    rw [matrix]
    exact (yields_theTrigger sound.event).stops (hstop _)
  | run =>
    rw [run]
    exact (yields_theTrigger sound.event).stops ((yields_print _).stops (hstop _))

theorem leadsTo_run (sound : i.IsSound s trigger text) (settled : (theSettings s i w).Yields settings)
    (h : Workflow.ofText text = .ok w) (hbuild : Build.ofWorkflow w settings = .ok b) :
    (run s i).LeadsTo (runBuild s i trigger (b.underBound i.bound?)) := by
  rw [run]
  refine ((yields_theTrigger sound.event).leadsTo _).trans (((yields_print _).leadsTo _).trans ?_)
  exact leadsTo_prepared sound settled h hbuild _

theorem stops_runBuild_of_tooLarge (large : b.expand = .error e) :
    (runBuild s i trigger b).Stops (·.Refuses e.fullMessage) := by
  rw [runBuild, Build.run_of_expand_error large]
  exact stops_refuse e.fullMessage

theorem stops_runBuild_of_bound_lt (expands : b.expand = .ok jobs) {n : Nat} (hn : n ∈ b.bound)
    (exceeds : greatestBound < n) : (runBuild s i trigger b).Stops fun finish => ∃ message, finish.Reports message := by
  rw [runBuild, Build.run_of_bound_lt expands hn exceeds]
  refine (yields_print _).stops fun printed => ?_
  exact ⟨_, rfl, _, rfl, rfl⟩

theorem exitCode_conclude (flags : OutputFlags) (events : List RunEvent) (summary : Summary) (printed : List Printed) :
    ((conclude flags events summary).finish printed).exitCode = if summary.success then 0 else 1 := by
  rw [conclude]
  cases summary.success <;> rfl

theorem judges_conclude (flags : OutputFlags) (events : List RunEvent) (summary : Summary) (printed : List Printed) :
    ((conclude flags events summary).finish printed).Judges summary := by
  have hcode := exitCode_conclude flags events summary printed
  by_cases good : ∀ report ∈ summary.jobs, report.outcome = .success
  · rw [if_pos (summary.success_iff.mpr good)] at hcode
    have hnone : ¬ ∃ report ∈ summary.jobs, report.outcome ≠ .success := by simpa using good
    exact ⟨iff_of_false (by omega) hnone, iff_of_true hcode good⟩
  · rw [if_neg (summary.success_iff.not.mpr good)] at hcode
    have hsome : ∃ report ∈ summary.jobs, report.outcome ≠ .success := by simpa using good
    exact ⟨iff_of_true hcode hsome, iff_of_false (by omega) good⟩

theorem judges_run (sound : i.IsSound s trigger text) (settled : (theSettings s i w).Yields settings)
    (h : Workflow.ofText text = .ok w) (hbuild : Build.ofWorkflow w settings = .ok b) {r : BuildRun σ}
    (hrun : (b.underBound i.bound?).run s.tasks trigger s.runner s.state = .ok r) (printed : List Printed) :
    ((run s i).finish printed).Judges r.summary := by
  obtain ⟨more, hfinish⟩ := (leadsTo_run sound settled h hbuild).finish printed
  rw [hfinish, runBuild, hrun]
  exact judges_conclude i.flags r.events r.summary (printed ++ more)

theorem endsRun_run (sound : i.IsSound s trigger text) (settled : (theSettings s i w).Yields settings)
    (h : Workflow.ofText text = .ok w) (hbuild : Build.ofWorkflow w settings = .ok b) (expands : b.expand = .ok jobs)
    (printed : List Printed) :
    ((run s i).finish printed).EndsRun s i (b.underBound i.bound?) trigger jobs := by
  have hexp : (b.underBound i.bound?).expand = .ok jobs := by rw [Build.expand_underBound, expands]
  have hzero := Build.bound_underBound_ne_zero hbuild i.bound?
  refine ⟨fun bounded => ?_, fun may t summary ht hsum => ?_, fun n hn exceeds => ?_⟩
  · have hrun := Build.run_eq_ok hexp bounded s.tasks trigger s.runner s.state
    obtain ⟨t, ht, hsum, hlog⟩ := Build.exists_reachable_of_run hexp hzero hrun
    refine ⟨_, hrun, Build.map_job_of_reachable hexp ht hsum, ?_, t, ht, hsum, hlog⟩
    exact judges_run sound settled h hbuild hrun printed
  · exact ⟨Build.map_job_of_reachable hexp ht hsum, judges_conclude i.flags t.log summary⟩
  · exact ((leadsTo_run sound settled h hbuild).stops (stops_runBuild_of_bound_lt hexp hn exceeds)).finish printed

theorem stops_execute_of_refused (sound : i.IsSound s trigger text) (h : Workflow.ofText text = .ok w)
    (settled : i.command = .validate ∨ (theSettings s i w).Yields settings) (refused : w.check = .error e) :
    (execute s i).Stops (·.Refuses (if i.command = .validate then e.message else e.fullMessage)) := by
  by_cases hcommand : i.command = .validate
  · simp only [execute, hcommand, if_true]
    exact stops_validate_of_refused sound h refused
  · simp only [hcommand, if_false]
    exact stops_execute_of_prepared sound hcommand
      (stops_prepared_of_refused sound (settled.resolve_left hcommand) h refused)

theorem stops_execute_of_tooLarge (sound : i.IsSound s trigger text) (h : Workflow.ofText text = .ok w)
    (settled : i.command = .validate ∨ (theSettings s i w).Yields settings) (checked : w.check = .ok ())
    (large : w.expansion = .error e) :
    (execute s i).Stops fun finish =>
      if i.command = .validate then finish.Reports e.message else finish.Refuses e.fullMessage := by
  have hbuild := Workflow.ofWorkflow_of_check checked settings
  have hexp : (w.soundBuild settings).expand = .error e := by rw [Workflow.expand_soundBuild checked, large]
  have hunder : ((w.soundBuild settings).underBound i.bound?).expand = .error e := by
    rw [Build.expand_underBound, hexp]
  rw [execute]
  cases hcommand : i.command with
  | validate => exact stops_validate_of_tooLarge sound h checked large
  | matrix =>
    have hyield := settled.resolve_left (by simp [hcommand])
    rw [matrix]
    refine (yields_theTrigger sound.event).stops ((leadsTo_prepared sound hyield h hbuild _).stops ?_)
    exact (stops_accept hexp).bind _
  | run =>
    have hyield := settled.resolve_left (by simp [hcommand])
    exact (leadsTo_run sound hyield h hbuild).stops (stops_runBuild_of_tooLarge hunder)

theorem yields_execute (sound : i.IsSound s trigger text) (h : Workflow.ofText text = .ok w)
    (settled : i.command = .validate ∨ (theSettings s i w).Yields settings) (checked : w.check = .ok ())
    (expands : w.expansion = .ok jobs) (notRun : i.command ≠ .run) : (execute s i).Yields () := by
  have hbuild := Workflow.ofWorkflow_of_check checked settings
  have hexp : (w.soundBuild settings).expand = .ok jobs := by rw [Workflow.expand_soundBuild checked, expands]
  rw [execute]
  cases hcommand : i.command with
  | validate => exact yields_validate sound h checked expands
  | matrix =>
    have hyield := settled.resolve_left (by simp [hcommand])
    rw [matrix]
    refine (yields_theTrigger sound.event).bind ((leadsTo_prepared sound hyield h hbuild _).yields ?_)
    refine (yields_accept hexp).bind ?_
    cases i.has .json with
    | true => exact yields_print _
    | false => exact yields_print _
  | run => exact absurd hcommand notRun

theorem Invoked.IsPlaced.settled (placed : i.IsPlaced s) (sound : i.IsSound s trigger text) (w : Workflow) :
    ∃ settings, i.command = .validate ∨ settingsFor s i w = .ok settings ∧ (theSettings s i w).Yields settings := by
  rcases placed with hcommand | ⟨directory, hd⟩
  · exact ⟨Settings.ofWorkflow w "/", .inl hcommand⟩
  · obtain ⟨settings, hsettings, hyield⟩ := yields_theSettings hd w sound.assigned
    exact ⟨settings, .inr ⟨hsettings, hyield⟩⟩

theorem isDue_of_placed (placed : i.IsPlaced s) (sound : i.IsSound s trigger text) (hw : Workflow.ofText text = .ok w) :
    ((execute s i).finish []).IsDue s i trigger text := by
  obtain ⟨settings, hall⟩ := placed.settled sound w
  have settled := hall.imp_right And.right
  cases hcheck : w.check with
  | error e => exact .refused hw placed hcheck ((stops_execute_of_refused sound hw settled hcheck).finish [])
  | ok =>
    cases hexp : w.expansion with
    | error e => exact .tooLarge hw placed hcheck hexp ((stops_execute_of_tooLarge sound hw settled hcheck hexp).finish [])
    | ok jobs =>
      by_cases hrun : i.command = .run
      · have hbuild := Workflow.ofWorkflow_of_check hcheck settings
        have hjobs : (w.soundBuild settings).expand = .ok jobs := by rw [Workflow.expand_soundBuild hcheck, hexp]
        obtain ⟨hsettings, hyield⟩ := hall.resolve_left (by simp [hrun])
        have hexecute : execute s i = run s i := by rw [execute, hrun]
        rw [hexecute]
        exact .ran hw hcheck hexp hrun hsettings hbuild (endsRun_run sound hyield hw hbuild hjobs [])
      · exact .listed hw placed hcheck hexp hrun ((yields_execute sound hw settled hcheck hexp hrun).finish [])

/-- A command about a text ends as is due, whatever the text, the other arguments, the runner and its tasks are. -/
theorem perform_isDue (reads : readArguments arguments = .ok i) (sound : i.IsSound s trigger text) :
    ∃ finish, perform s arguments = .ok finish ∧ finish.IsDue s i trigger text := by
  refine ⟨_, perform_of_reads reads, ?_⟩
  cases hw : Workflow.ofText text with
  | error problem => exact .unreadable hw ((stops_execute_of_unreadable sound hw).finish [])
  | ok w =>
    by_cases placed : i.IsPlaced s
    · exact isDue_of_placed placed sound hw
    · obtain ⟨hcommand, hno⟩ := not_or.mp placed
      cases hd : directoryFor s i with
      | ok directory => exact absurd ⟨directory, hd⟩ hno
      | error problem =>
        have hstop := stops_execute_of_prepared sound hcommand (stops_prepared_of_unplaced sound hw hd)
        exact .unplaced hw hcommand hd (hstop.finish [])

def Surroundings.ofText (text : String) (runner : Runner σ) (state : σ) : Surroundings σ :=
  ⟨fun _ => .file text.toUTF8, fun _ => none, .ok "/", runner, state, .numbered⟩

theorem holds_ofText (path text : String) (runner : Runner σ) (state : σ) :
    (Surroundings.ofText text runner state).Holds path text := by
  refine ⟨text.toUTF8, rfl, ?_⟩
  rw [String.fromUTF8?, String.toUTF8_eq_toByteArray, dif_pos text.isValidUTF8]
  rfl

def twoSystems : String :=
  "matrix:\n  os: [linux, macos]\nsteps:\n- name: build\n  run: make $\x7b\x7b matrix.os \x7d\x7d\n"

/-- A runner that counts what it is asked for, and for which the build fails when it has been asked before. -/
def failsWhenAsked : Runner Nat := fun asked _ =>
  (if asked = 0 then .silent else ⟨[], .exited (some 2) ""⟩, asked + 1)

def failingRun : Invoked :=
  ⟨.run, "ci.yml", [.value .event "push", .path "ci.yml", .value .env "CI=1", .value .maxParallel "1"]⟩

theorem perform_twoSystems_isDue :
    readArguments ["run", "-e", "push", "ci.yml", "--env", "CI=1", "-j1"] = .ok failingRun ∧
      failingRun.IsSound (.ofText twoSystems failsWhenAsked 0) .push twoSystems ∧
      ∃ finish, perform (.ofText twoSystems failsWhenAsked 0)
          ["run", "-e", "push", "ci.yml", "--env", "CI=1", "-j1"] = .ok finish ∧
        finish.IsDue (.ofText twoSystems failsWhenAsked 0) failingRun .push twoSystems ∧ finish.exitCode = 1 := by
  have reads : readArguments ["run", "-e", "push", "ci.yml", "--env", "CI=1", "-j1"] = .ok failingRun := by
    decide +kernel
  have sound : failingRun.IsSound (.ofText twoSystems failsWhenAsked 0) .push twoSystems := by
    refine ⟨holds_ofText "ci.yml" twoSystems failsWhenAsked 0, ?_, ?_⟩
    · decide +kernel
    · decide +kernel
  have hcode : (perform (.ofText twoSystems failsWhenAsked 0)
      ["run", "-e", "push", "ci.yml", "--env", "CI=1", "-j1"]).map (·.exitCode) = .ok 1 := by decide +kernel
  obtain ⟨finish, hperform, hend⟩ := perform_isDue reads sound
  rw [hperform] at hcode
  exact ⟨reads, sound, finish, hperform, hend, Except.ok.inj hcode⟩

/-- Sixteen axes of sixteen values, which give one job more than can be addressed. -/
def sixteenAxes : String :=
  "matrix:\n a: &x [0,1,2,3,4,5,6,7,8,9,a,b,c,d,e,f]\n b: *x\n c: *x\n d: *x\n e: *x\n f: *x\n g: *x\n" ++
    " h: *x\n i: *x\n j: *x\n k: *x\n l: *x\n m: *x\n n: *x\n o: *x\n p: *x\n" ++
    "steps:\n- name: build\n  run: make\n"

theorem ofText_sixteenAxes : ∃ w, Workflow.ofText sixteenAxes = .ok w ∧ w.check = .ok () ∧
    w.expansion = .error .tooManyJobs := by
  have hdecide : (match Workflow.ofText sixteenAxes with
      | .ok w => decide (w.check = .ok () ∧ w.expansion = .error .tooManyJobs)
      | .error _ => false) = true := by decide +kernel
  cases hw : Workflow.ofText sixteenAxes with
  | error problem =>
    rw [hw] at hdecide
    cases hdecide
  | ok w =>
    rw [hw] at hdecide
    exact ⟨w, rfl, of_decide_eq_true hdecide⟩

theorem not_refused_by_every_command : ¬ ∀ (s : Surroundings Unit) arguments i trigger text,
    readArguments arguments = .ok i → i.IsSound s trigger text → i.IsPlaced s →
    (∀ w, Workflow.ofText text = .ok w → w.check = .ok () → ∃ e, w.expansion = .error e) →
    ∃ finish, perform s arguments = .ok finish ∧ finish.exitCode = 2 := by
  intro h
  let s := Surroundings.ofText sixteenAxes (.ofFunction fun _ => .silent) ()
  let i : Invoked := ⟨.validate, "ci.yml", [.path "ci.yml"]⟩
  have reads : readArguments ["validate", "ci.yml"] = .ok i := by decide +kernel
  have sound : i.IsSound s .manual sixteenAxes :=
    ⟨holds_ofText "ci.yml" sixteenAxes _ _, by decide +kernel, by decide +kernel⟩
  obtain ⟨w, hw, hcheck, hexp⟩ := ofText_sixteenAxes
  have hwrong : ∀ v, Workflow.ofText sixteenAxes = .ok v → v.check = .ok () → ∃ e, v.expansion = .error e := by
    intro v hv _
    rw [hw] at hv
    cases hv
    exact ⟨_, hexp⟩
  obtain ⟨finish, hperform, htwo⟩ := h s _ i .manual sixteenAxes reads sound (.inl rfl) hwrong
  have hfinish := Except.ok.inj ((perform_of_reads reads).symm.trans hperform)
  have hrep := (stops_validate_of_tooLarge sound hw hcheck hexp).finish []
  have hone : ((execute s i).finish []).exitCode = 1 := hrep.code
  rw [hfinish, htwo] at hone
  cases hone

end Cli
end JobMatrix
