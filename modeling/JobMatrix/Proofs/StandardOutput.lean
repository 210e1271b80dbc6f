import JobMatrix.Proofs.ExitCodes
import JobMatrix.Proofs.JsonText
import JobMatrix.Proofs.SummaryDocument

/-!
What a run leaves on standard output. Whatever is printed for an event goes to the error stream, but for a line that a
step wrote to its own standard output; so the text of the whole run there is the summary document, or those lines with
their tags, or nothing, as the flags ask for it.
-/
namespace JobMatrix

def Printed.text? : Printed → Option String
  | .out text => some text
  | .err _ => none

def standardOutput (lines : List Printed) : List String := lines.filterMap Printed.text?

@[simp] theorem standardOutput_nil : standardOutput [] = [] := rfl

@[simp] theorem standardOutput_err (text : String) (rest : List Printed) :
    standardOutput (.err text :: rest) = standardOutput rest := rfl

@[simp] theorem standardOutput_append (first second : List Printed) :
    standardOutput (first ++ second) = standardOutput first ++ standardOutput second := List.filterMap_append

def RunEvent.taggedLine? : RunEvent → Option String
  | .job index _ (.stepOutput _ line false) => some (Printed.jobTag index ++ "     | " ++ line)
  | _ => none

namespace OutputFlags

def stepLines (flags : OutputFlags) (events : List RunEvent) : List String :=
  if flags.quiet ∨ flags.json then [] else events.filterMap RunEvent.taggedLine?

/-- What the flags ask for on standard output: one text for a document that shows the summary, or nothing, or the tagged
lines in the order of the events. -/
structure Requests (flags : OutputFlags) (events : List RunEvent) (summary : Summary) (texts : List String) :
    Prop where
  document : flags.json = true → ∃ (text : String) (v : JsonValue),
    texts = [text] ∧ v.Spells text.toList ∧ v.ShowsSummary summary
  nothing : flags.json = false → flags.quiet = true → texts = []
  lines : flags.json = false → flags.quiet = false → texts = events.filterMap RunEvent.taggedLine?

theorem stepLines_cons (flags : OutputFlags) (event : RunEvent) (rest : List RunEvent) :
    flags.stepLines (event :: rest) = flags.stepLines [event] ++ flags.stepLines rest := by
  by_cases hoff : flags.quiet = true ∨ flags.json = true
  · simp only [stepLines, if_pos hoff, List.append_nil]
  · simp only [stepLines, if_neg hoff, ← List.filterMap_append, List.singleton_append]

theorem stepLines_eq_nil {event : RunEvent} (h : event.taggedLine? = none) (flags : OutputFlags) :
    flags.stepLines [event] = [] := by
  rw [stepLines, List.filterMap_cons_none h, List.filterMap_nil, ite_self]

end OutputFlags

theorem standardOutput_outputLine (flags : OutputFlags) (index place : Nat) (name line : String) (isError : Bool) :
    standardOutput (Printed.outputLine flags index line isError) =
      flags.stepLines [.job index name (.stepOutput place line isError)] := by
  obtain ⟨quiet, json⟩ := flags
  cases quiet <;> cases isError <;> cases json <;> rfl

theorem standardOutput_ofRunEvent (flags : OutputFlags) (event : RunEvent) :
    standardOutput (Printed.ofRunEvent flags event) = flags.stepLines [event] := by
  cases event with
  | started name trigger jobs => exact (OutputFlags.stepLines_eq_nil rfl flags).symm
  | completed good jobs failed =>
    rw [OutputFlags.stepLines_eq_nil rfl]
    cases good <;> rfl
  | job index name event =>
    cases event with
    | stepOutput place line isError => exact standardOutput_outputLine flags index place name line isError
    | _ => exact (OutputFlags.stepLines_eq_nil rfl flags).symm

theorem standardOutput_events (flags : OutputFlags) (events : List RunEvent) :
    standardOutput (events.flatMap (Printed.ofRunEvent flags)) = flags.stepLines events := by
  induction events with
  | nil => rw [OutputFlags.stepLines, List.filterMap_nil, ite_self, List.flatMap_nil, standardOutput_nil]
  | cons event rest ih =>
    rw [List.flatMap_cons, standardOutput_append, standardOutput_ofRunEvent, ih, ← OutputFlags.stepLines_cons]

theorem standardOutput_closingLines (reports : List JobReport) :
    standardOutput (reports.map Printed.closingLine) = [] := by
  induction reports with
  | nil => rfl
  | cons report rest ih => exact ih

namespace Cli
variable {α σ : Type} {s : Surroundings σ} {i : Invoked} {arguments : List String}

theorem standardOutput_printedRun (flags : OutputFlags) (events : List RunEvent) (summary : Summary) :
    standardOutput (printedRun flags events summary) =
      flags.stepLines events ++ if flags.json then [(JsonValue.ofSummary summary).pretty] else [] := by
  simp only [printedRun, standardOutput_append, standardOutput_events, standardOutput_err,
    standardOutput_closingLines, List.append_nil]
  cases flags.json <;> rfl

theorem requests_printedRun (flags : OutputFlags) (events : List RunEvent) (summary : Summary) :
    flags.Requests events summary (standardOutput (printedRun flags events summary)) := by
  rw [standardOutput_printedRun]
  refine ⟨fun json => ?_, fun json quiet => ?_, fun json quiet => ?_⟩
  · refine ⟨_, _, ?_, JsonValue.spells_pretty _, JsonValue.showsSummary_ofSummary summary⟩
    simp [OutputFlags.stepLines, json]
  · simp [OutputFlags.stepLines, json, quiet]
  · simp [OutputFlags.stepLines, json, quiet]

/-- The action prints nothing and goes on with the value, or it ends its command with nothing on standard output. -/
def Action.Follows (x : Action α) : Option α → Prop
  | some a => ∀ before, x before = .ok (a, before)
  | none => ∀ before, ∃ finish, x before = .error finish ∧ standardOutput finish.printed = standardOutput before

/-- The command prints some lines and all about a run, or it leaves standard output as it is. -/
def Action.Tells (x : Action Unit) (flags : OutputFlags) (lines : List Printed) : Option (BuildRun σ) → Prop
  | some r => ∀ before, (x.finish before).printed = before ++ lines ++ printedRun flags r.events r.summary
  | none => ∀ before, standardOutput (x.finish before).printed = standardOutput before

theorem printed_conclude (flags : OutputFlags) (events : List RunEvent) (summary : Summary) (before : List Printed) :
    ((conclude flags events summary).finish before).printed = before ++ printedRun flags events summary := by
  rw [conclude]
  cases summary.success <;> rfl

section Parts
variable {x : Action α} {f : α → Action Unit} {flags : OutputFlags} {lines : List Printed}

theorem Action.Follows.tells {x : Action Unit} (h : x.Follows none) :
    x.Tells flags lines (none : Option (BuildRun σ)) := by
  intro before
  obtain ⟨finish, hx, hfinish⟩ := h before
  simp only [Action.finish, hx, hfinish]

theorem Action.Follows.none_bind (h : x.Follows none) (f : α → Action Unit) : (x >>= f).Follows none := by
  intro before
  obtain ⟨finish, hx, hfinish⟩ := h before
  refine ⟨finish, ?_, hfinish⟩
  simp only [Bind.bind, hx]

theorem Action.Follows.tells_bind {found : Option α} {run : α → Option (BuildRun σ)} (h : x.Follows found)
    (next : ∀ a, (f a).Tells flags lines (run a)) : (x >>= f).Tells flags lines (found >>= run) := by
  cases found with
  | none => exact (h.none_bind f).tells
  | some a =>
    have hbind : (x >>= f).finish = (f a).finish := by
      funext before
      simp only [Action.finish, Bind.bind, h before]
    have hnext := next a
    unfold Action.Tells at hnext ⊢
    rw [hbind]
    exact hnext

theorem tells_print {next : Action Unit} {run : Option (BuildRun σ)} (silent : standardOutput lines = [])
    (h : next.Tells flags [] run) : (Action.print lines >>= fun _ => next).Tells flags lines run := by
  have hprint : ∀ before, (Action.print lines >>= fun _ => next).finish before = next.finish (before ++ lines) :=
    fun _ => rfl
  cases run with
  | none =>
    intro before
    rw [hprint, h (before ++ lines), standardOutput_append, silent, List.append_nil]
  | some r =>
    intro before
    rw [hprint, h (before ++ lines), List.append_nil]

end Parts

theorem follows_report (message : String) : (Action.report message : Action α).Follows none :=
  fun before => ⟨⟨1, before, some message⟩, rfl, rfl⟩

theorem follows_refuse (message : String) : (refuse message : Action α).Follows none := by
  intro before
  refine ⟨⟨2, before ++ [.error message], none⟩, rfl, ?_⟩
  rw [standardOutput_append, Printed.error, standardOutput_err, standardOutput_nil, List.append_nil]

theorem follows_theTrigger (i : Invoked) :
    (theTrigger i).Follows (Trigger.parse ((i.value? .event).getD "manual")).toOption := by
  rw [theTrigger]
  cases Trigger.parse ((i.value? .event).getD "manual") with
  | ok trigger => exact fun _ => rfl
  | error message => exact follows_report message

theorem follows_theSettings (s : Surroundings σ) (i : Invoked) (w : Workflow) :
    (theSettings s i w).Follows (settingsFor s i w).toOption := by
  rw [theSettings]
  cases settingsFor s i w with
  | ok settings => exact fun _ => rfl
  | error message => exact follows_report message

theorem follows_accept (r : Except DeclarationError α) : (accept r).Follows r.toOption := by
  cases r with
  | ok a => exact fun _ => rfl
  | error e => exact follows_refuse e.fullMessage

theorem follows_theWorkflow (s : Surroundings σ) (path : String) :
    (theWorkflow s path).Follows (Workflow.load (s.file path)).toOption := by
  rw [theWorkflow]
  cases s.file path with
  | missing => exact follows_report _
  | directory => exact follows_report _
  | denied => exact follows_report _
  | file bytes =>
    dsimp only
    cases Workflow.load (.file bytes) with
    | ok w => exact fun _ => rfl
    | error e =>
      cases e with
      | unreadable problem =>
        cases problem with
        | notYaml problem => exact follows_refuse _
        | misshapen fault => exact follows_refuse _
      | _ => exact follows_report _

/-- The run that a command comes to, if it reaches its summary. -/
def Invoked.runOf? (i : Invoked) (s : Surroundings σ) : Option (BuildRun σ) := do
  let trigger ← (Trigger.parse ((i.value? .event).getD "manual")).toOption
  let w ← (Workflow.load (s.file i.path)).toOption
  let settings ← (settingsFor s i w).toOption
  let build ← (Build.ofWorkflow w settings).toOption
  ((build.underBound i.bound?).run s.tasks trigger s.runner s.state).value?

theorem standardOutput_announcement {b : Build} {trigger : Trigger} {announcement : RunEvent}
    (h : b.run s.tasks trigger s.runner s.state = .panic announcement) (flags : OutputFlags) :
    standardOutput (Printed.ofRunEvent flags announcement) = [] := by
  rw [Build.run, Build.begin] at h
  cases hexp : b.expand with
  | error e =>
    rw [hexp] at h
    cases h
  | ok jobs =>
    simp only [hexp] at h
    split at h
    · cases h
      rfl
    · cases h

theorem tells_runBuild (s : Surroundings σ) (i : Invoked) (trigger : Trigger) (b : Build) :
    (runBuild s i trigger b).Tells i.flags [] (b.run s.tasks trigger s.runner s.state).value? := by
  rw [runBuild]
  cases hrun : b.run s.tasks trigger s.runner s.state with
  | ok r =>
    intro before
    rw [List.append_nil]
    exact printed_conclude i.flags r.events r.summary before
  | error e => exact (follows_refuse e.fullMessage).tells
  | panic announcement =>
    intro before
    have hsilent := standardOutput_announcement hrun i.flags
    exact (standardOutput_append before _).trans (by rw [hsilent, List.append_nil])

theorem tells_run (s : Surroundings σ) (i : Invoked) :
    (run s i).Tells i.flags [.status "Parsing" i.path] (i.runOf? s) := by
  rw [run, Invoked.runOf?]
  refine (follows_theTrigger i).tells_bind fun trigger => tells_print rfl ?_
  refine (follows_theWorkflow s i.path).tells_bind fun w => ?_
  refine (follows_theSettings s i w).tells_bind fun settings => ?_
  refine (follows_accept (Build.ofWorkflow w settings)).tells_bind fun build => ?_
  exact tells_runBuild s i trigger (build.underBound i.bound?)

/-- Standard output of a run that reaches its summary is what the flags ask for: the document alone, or the lines of the
steps in the order of the events, or nothing. It is so in whatever order the events came, and whatever else has been
printed. A command that comes to no summary leaves nothing there. -/
theorem standardOutput_run (reads : readArguments arguments = .ok i) (isRun : i.command = .run) :
    ∃ finish, perform s arguments = .ok finish ∧
      (∀ r, i.runOf? s = some r →
        finish.printed = .status "Parsing" i.path :: printedRun i.flags r.events r.summary ∧
        i.flags.Requests r.events r.summary (standardOutput finish.printed)) ∧
      (i.runOf? s = none → standardOutput finish.printed = []) ∧
      ∀ events summary before, ∃ texts, i.flags.Requests events summary texts ∧
        standardOutput ((conclude i.flags events summary).finish before).printed = standardOutput before ++ texts := by
  have hexecute : execute s i = run s i := by rw [execute, isRun]
  have htells := tells_run s i
  refine ⟨_, perform_of_reads reads, ?_, ?_, fun events summary before => ?_⟩
  · intro r hr
    rw [hr] at htells
    rw [hexecute, htells []]
    exact ⟨rfl, requests_printedRun i.flags r.events r.summary⟩
  · intro hnone
    rw [hnone] at htells
    rw [hexecute]
    exact htells []
  · refine ⟨_, requests_printedRun i.flags events summary, ?_⟩
    rw [printed_conclude, standardOutput_append]

def writesTwice : Runner Nat := fun asked call =>
  let lines := [⟨call.command, false⟩, ⟨"done", true⟩]
  (⟨lines, if asked = 1 then .exited (some 2) "no \"rule\"\nstop" else .exited (some 0) ""⟩, asked + 1)

def oneSystem : String :=
  "matrix:\n  os: [linux]\nsteps:\n- name: build\n  run: make\n- name: test\n  run: make test\n"

def oneSystemSummary : Summary :=
  ⟨"workflow", .manual, [⟨⟨0, .ofList [("os", "linux")], .stable⟩, .failed "test" (some 2),
    [⟨"build", .succeeded, some "make", some 0, none⟩,
      ⟨"test", .failed, some "make test", some 2, some "no \"rule\"\nstop"⟩]⟩]⟩

def oneSystemDocument : JsonValue :=
  .object [("workflow_name", .string "workflow"), ("event", .string "manual"),
    ("jobs", .array [.object [
      ("job", .object [("index", .number 0), ("values", .object [("os", .string "linux")]),
        ("toolchain", .string "stable")]),
      ("outcome", .object [("status", .string "failed"), ("step", .string "test"), ("exit_code", .number 2)]),
      ("steps", .array [
        .object [("name", .string "build"), ("status", .string "succeeded"), ("command", .string "make"),
          ("exit_code", .number 0), ("error", .null), ("duration", .noDuration)],
        .object [("name", .string "test"), ("status", .string "failed"), ("command", .string "make test"),
          ("exit_code", .number 2), ("error", .string "no \"rule\"\nstop"), ("duration", .noDuration)]]),
      ("duration", .noDuration)]]),
    ("duration", .noDuration)]

theorem standardOutput_under_flags :
    (∃ finish, perform (.ofText twoSystems writesTwice 0) ["run", "ci.yml"] = .ok finish ∧
      standardOutput finish.printed = ["[job  1]     | make linux", "[job  2]     | make macos"]) ∧
    (∃ finish, perform (.ofText twoSystems writesTwice 0) ["run", "--quiet", "ci.yml"] = .ok finish ∧
      standardOutput finish.printed = []) ∧
    ∀ flags ∈ [["--json"], ["--json", "--quiet"]], ∃ finish, ∃ text : String,
      perform (.ofText oneSystem writesTwice 0) ("run" :: flags ++ ["ci.yml"]) = .ok finish ∧
        standardOutput finish.printed = [text] ∧ oneSystemDocument.Spells text.toList ∧
        ∃ v : JsonValue, v.Spells text.toList ∧ v.ShowsSummary oneSystemSummary := by
  refine ⟨?_, ?_, fun flags hflags => ?_⟩
  · have reads : readArguments ["run", "ci.yml"] = .ok ⟨.run, "ci.yml", [.path "ci.yml"]⟩ := by decide +kernel
    obtain ⟨finish, hperform, hrun, -⟩ := standardOutput_run (s := .ofText twoSystems writesTwice 0) reads rfl
    have hlines : (Invoked.runOf? ⟨.run, "ci.yml", [.path "ci.yml"]⟩ (.ofText twoSystems writesTwice 0)).map
        (fun r => r.events.filterMap RunEvent.taggedLine?) =
          some ["[job  1]     | make linux", "[job  2]     | make macos"] := by decide +kernel
    obtain ⟨r, hr, htagged⟩ := Option.map_eq_some_iff.mp hlines
    exact ⟨finish, hperform, ((hrun r hr).2.lines rfl rfl).trans htagged⟩
  · have reads : readArguments ["run", "--quiet", "ci.yml"] =
        .ok ⟨.run, "ci.yml", [.flag .quiet, .path "ci.yml"]⟩ := by decide +kernel
    obtain ⟨finish, hperform, hrun, -⟩ := standardOutput_run (s := .ofText twoSystems writesTwice 0) reads rfl
    have hreached : (Invoked.runOf? ⟨.run, "ci.yml", [.flag .quiet, .path "ci.yml"]⟩
        (.ofText twoSystems writesTwice 0)).isSome = true := by decide +kernel
    obtain ⟨r, hr⟩ := Option.isSome_iff_exists.mp hreached
    exact ⟨finish, hperform, (hrun r hr).2.nothing rfl rfl⟩
  · obtain ⟨i, reads, isRun, json, hsummary⟩ : ∃ i, readArguments ("run" :: flags ++ ["ci.yml"]) = .ok i ∧
        i.command = .run ∧ i.flags.json = true ∧
        (i.runOf? (.ofText oneSystem writesTwice 0)).map (·.summary) = some oneSystemSummary := by
      simp only [List.mem_cons, List.not_mem_nil, or_false] at hflags
      rcases hflags with rfl | rfl
      · exact ⟨⟨.run, "ci.yml", [.flag .json, .path "ci.yml"]⟩, by decide +kernel⟩
      · exact ⟨⟨.run, "ci.yml", [.flag .json, .flag .quiet, .path "ci.yml"]⟩, by decide +kernel⟩
    obtain ⟨r, hr, hshown⟩ := Option.map_eq_some_iff.mp hsummary
    obtain ⟨finish, hperform, hrun, -⟩ := standardOutput_run (s := .ofText oneSystem writesTwice 0) reads isRun
    obtain ⟨text, v, htext, hspells, hshows⟩ := (hrun r hr).2.document json
    have hdocument : JsonValue.ofSummary r.summary = oneSystemDocument := by
      rw [hshown]
      rfl
    have hall : standardOutput finish.printed = [(JsonValue.ofSummary r.summary).pretty] := by
      rw [(hrun r hr).1]
      exact (standardOutput_printedRun i.flags r.events r.summary).trans (by simp [OutputFlags.stepLines, json])
    have hpretty : text = (JsonValue.ofSummary r.summary).pretty := List.singleton_inj.mp (htext.symm.trans hall)
    refine ⟨finish, text, hperform, htext, ?_, v, hspells, hshown ▸ hshows⟩
    rw [hpretty, hdocument]
    exact oneSystemDocument.spells_pretty

end Cli
end JobMatrix
