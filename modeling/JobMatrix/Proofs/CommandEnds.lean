import JobMatrix.Proofs.AssignedVariables

/-!
How commands end, part by part. An action yields a value after it has printed something, or it stops its command: by
refusing with exit code 2 what it was given, or with an error that is left to be reported.
-/
namespace JobMatrix.Cli
variable {α β σ : Type} {x : Action α} {f : α → Action β} {a : α} {b : β} {P : Finish → Prop} {s : Surroundings σ}
  {i : Invoked} {path text : String} {w : Workflow}

/-- The action goes on with the value, whatever was printed before. -/
def Action.Yields (x : Action α) (a : α) : Prop :=
  ∀ printed, ∃ more, x printed = .ok (a, printed ++ more)

/-- The action ends its command, whatever was printed before. -/
def Action.Stops (x : Action α) (P : Finish → Prop) : Prop :=
  ∀ printed, ∃ finish, x printed = .error finish ∧ P finish

/-- After it printed something the one action is the other. -/
def Action.LeadsTo (x y : Action α) : Prop :=
  ∀ printed, ∃ more, x printed = y (printed ++ more)

theorem Action.Yields.leadsTo (hx : x.Yields a) (f : α → Action β) : (x >>= f).LeadsTo (f a) := by
  intro printed
  obtain ⟨more, hx⟩ := hx printed
  refine ⟨more, ?_⟩
  simp only [Bind.bind, hx]

theorem Action.LeadsTo.trans {y z : Action α} (hxy : x.LeadsTo y) (hyz : y.LeadsTo z) : x.LeadsTo z := by
  intro printed
  obtain ⟨more, hxy⟩ := hxy printed
  obtain ⟨last, hyz⟩ := hyz (printed ++ more)
  refine ⟨more ++ last, ?_⟩
  rw [hxy, hyz, List.append_assoc]

theorem Action.LeadsTo.yields {y : Action α} (hxy : x.LeadsTo y) (hy : y.Yields a) : x.Yields a := by
  intro printed
  obtain ⟨more, hxy⟩ := hxy printed
  obtain ⟨last, hy⟩ := hy (printed ++ more)
  refine ⟨more ++ last, ?_⟩
  rw [hxy, hy, List.append_assoc]

theorem Action.LeadsTo.stops {y : Action α} (hxy : x.LeadsTo y) (hy : y.Stops P) : x.Stops P := by
  intro printed
  obtain ⟨more, hxy⟩ := hxy printed
  obtain ⟨finish, hy, hp⟩ := hy (printed ++ more)
  exact ⟨finish, hxy.trans hy, hp⟩

theorem Action.LeadsTo.finish {x y : Action Unit} (hxy : x.LeadsTo y) (printed : List Printed) :
    ∃ more, x.finish printed = y.finish (printed ++ more) := by
  obtain ⟨more, hxy⟩ := hxy printed
  refine ⟨more, ?_⟩
  simp only [Action.finish, hxy]

theorem Action.Yields.bind (hx : x.Yields a) (hf : (f a).Yields b) : (x >>= f).Yields b := (hx.leadsTo f).yields hf

theorem Action.Yields.stops (hx : x.Yields a) (hf : (f a).Stops P) : (x >>= f).Stops P := (hx.leadsTo f).stops hf

theorem Action.Stops.bind (hx : x.Stops P) (f : α → Action β) : (x >>= f).Stops P := by
  intro printed
  obtain ⟨finish, hx, hp⟩ := hx printed
  refine ⟨finish, ?_, hp⟩
  simp only [Bind.bind, hx]

theorem Action.Yields.finish {x : Action Unit} (hx : x.Yields ()) (printed : List Printed) :
    (x.finish printed).exitCode = 0 ∧ (x.finish printed).report = none := by
  obtain ⟨more, hx⟩ := hx printed
  simp only [Action.finish, hx, and_self]

theorem Action.Stops.finish {x : Action Unit} (hx : x.Stops P) (printed : List Printed) : P (x.finish printed) := by
  obtain ⟨finish, hx, hp⟩ := hx printed
  simpa only [Action.finish, hx] using hp

theorem yields_pure (a : α) : (pure a : Action α).Yields a := fun printed => ⟨[], by rw [List.append_nil]; rfl⟩

theorem yields_print (lines : List Printed) : (Action.print lines).Yields () := fun _ => ⟨lines, rfl⟩

/-- The end of a command that is given a wrong configuration: the error is printed, and the exit code is 2. -/
structure Finish.Refuses (finish : Finish) (message : String) : Prop where
  code : finish.exitCode = 2
  shown : .error message ∈ finish.printed
  unreported : finish.report = none

structure Finish.Reports (finish : Finish) (message : String) : Prop where
  code : finish.exitCode = 1
  reported : finish.report = some message

theorem stops_refuse (message : String) : (refuse message : Action α).Stops (·.Refuses message) := by
  intro printed
  exact ⟨⟨2, printed ++ [.error message], none⟩, rfl, rfl, by simp, rfl⟩

theorem stops_report (message : String) : (Action.report message : Action α).Stops (·.Reports message) := by
  intro printed
  exact ⟨⟨1, printed, some message⟩, rfl, rfl, rfl⟩

theorem yields_accept {r : Except DeclarationError α} (h : r = .ok a) : (accept r).Yields a := by
  subst h
  exact yields_pure a

theorem stops_accept {r : Except DeclarationError α} {e : DeclarationError} (h : r = .error e) :
    (accept r).Stops (·.Refuses e.fullMessage) := by
  subst h
  exact stops_refuse e.fullMessage

theorem yields_theTrigger {trigger : Trigger}
    (event : Trigger.parse ((i.value? .event).getD "manual") = .ok trigger) : (theTrigger i).Yields trigger := by
  rw [theTrigger, event]
  exact yields_pure trigger

def Surroundings.Holds (s : Surroundings σ) (path text : String) : Prop :=
  ∃ bytes, s.file path = .file bytes ∧ String.fromUTF8? bytes = some text

theorem yields_theWorkflow (held : s.Holds path text) (h : Workflow.ofText text = .ok w) :
    (theWorkflow s path).Yields w := by
  obtain ⟨bytes, hfile, htext⟩ := held
  have hload : Workflow.load (.file bytes) = .ok w := by
    simp only [Workflow.load, htext, h]
    rfl
  simp only [theWorkflow, hfile, hload]
  exact yields_pure w

theorem stops_theWorkflow {e : ReadError} (held : s.Holds path text) (h : Workflow.ofText text = .error e) :
    (theWorkflow s path).Stops fun finish => ∃ problem, finish.Refuses ("Parse error: " ++ problem) := by
  obtain ⟨bytes, hfile, htext⟩ := held
  have hload : Workflow.load (.file bytes) = .error (.unreadable e) := by
    simp only [Workflow.load, htext, h]
    rfl
  simp only [theWorkflow, hfile, hload]
  intro printed
  cases e with
  | notYaml problem =>
    obtain ⟨finish, hstop, href⟩ := stops_refuse (α := Workflow) ("Parse error: " ++ problem.message) printed
    exact ⟨finish, hstop, _, href⟩
  | misshapen fault =>
    obtain ⟨finish, hstop, href⟩ := stops_refuse (α := Workflow) ("Parse error: " ++ fault.message) printed
    exact ⟨finish, hstop, _, href⟩

theorem yields_theSettings {directory : String} (placed : directoryFor s i = .ok directory) (w : Workflow)
    (assigned : ∀ entry ∈ i.values .env, (assignment? entry).isSome = true) :
    ∃ settings, settingsFor s i w = .ok settings ∧ (theSettings s i w).Yields settings := by
  cases hs : settingsFor s i w with
  | error e =>
    obtain ⟨text, hm, hno⟩ := (settingsFor_eq_error_iff placed).mp ⟨e, hs⟩
    have hsome := assigned text hm
    rw [assignment?_eq_none_iff.mpr hno] at hsome
    cases hsome
  | ok settings =>
    refine ⟨settings, rfl, ?_⟩
    rw [theSettings, hs]
    exact yields_pure settings

theorem stops_theSettings {problem : String} (unplaced : directoryFor s i = .error problem) (w : Workflow) :
    (theSettings s i w).Stops (·.Reports problem) := by
  rw [theSettings, settingsFor_of_unplaced unplaced]
  exact stops_report problem

end JobMatrix.Cli
