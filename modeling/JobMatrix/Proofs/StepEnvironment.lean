import JobMatrix.Proofs.CommandAppend
import JobMatrix.Proofs.TableEntries
import JobMatrix.Run.JobRun

/-!
The variables that a command mentions and those that its process finds. The two look into the same layers, with one
exception: the process finds the token in its variable, and the command does not.
-/
namespace JobMatrix

theorem Settings.get?_processEnv (settings : Settings) (stepEnv : Table String) (name : String) :
    (settings.processEnv stepEnv).get? name =
      if name = tokenVariable ∧ settings.token.isSome then settings.token
      else (stepEnv.get? name).or (settings.env.get? name) := by
  cases ht : settings.token with
  | none => simp [processEnv, ht, Table.get?_overlay]
  | some token =>
    by_cases hname : name = tokenVariable <;> simp [processEnv, ht, hname, Table.get?_insert, Table.get?_overlay]

theorem planned_of_parse {step : Step} {template : Template} (h : Template.parse step.command = .ok template) :
    step.planned = .ok ⟨step, template⟩ := by
  simp only [Step.planned, h]

namespace JobContext
open Template

/-- Where the command of a step mentions a variable, it gets the value that the process of the step finds there, and
nothing if the process finds none. Only the variable of the token is an exception when there is a token: the process
finds the token, and the command gets what the step and the settings have under this name. -/
theorem variable_in_command (c : JobContext) {s t : String} {first second : Template} {e : List Char} {name : String}
    (hs : parse s = .ok first) (ht : parse t = .ok second) (closed : ¬ closing <:+: e ++ ['\x7d'])
    (named : Names (Text.trim e) (.env name)) (step : Step) (hstep : step.command = s ++ written e ++ t) :
    ∃ planned, step.planned = .ok planned ∧
      (c.settings.token = none ∨ name ≠ tokenVariable →
        (c.invocation planned).command = first.resolve c.job c.settings step.env ++
          ((c.invocation planned).env.get? name).getD "" ++ second.resolve c.job c.settings step.env) ∧
      ∀ token, c.settings.token = some token → name = tokenVariable →
        (c.invocation planned).env.get? name = some token ∧
          (c.invocation planned).command = first.resolve c.job c.settings step.env ++
            ((step.env.get? name).or (c.settings.env.get? name)).getD "" ++
              second.resolve c.job c.settings step.env := by
  obtain ⟨whole, hwhole, -, hrender⟩ := parse_around hs ht closed named
  have hplanned : step.planned = .ok ⟨step, whole⟩ := planned_of_parse (hstep ▸ hwhole)
  have hcommand : (c.invocation ⟨step, whole⟩).command = first.resolve c.job c.settings step.env ++
      ((step.env.get? name).or (c.settings.env.get? name)).getD "" ++ second.resolve c.job c.settings step.env :=
    hrender _
  have hfinds : (c.invocation ⟨step, whole⟩).env.get? name =
      if name = tokenVariable ∧ c.settings.token.isSome then c.settings.token
      else (step.env.get? name).or (c.settings.env.get? name) :=
    c.settings.get?_processEnv step.env name
  refine ⟨_, hplanned, fun clear => ?_, fun token htoken hname => ⟨?_, hcommand⟩⟩
  · have hlayers : ¬ (name = tokenVariable ∧ c.settings.token.isSome) := by
      rintro ⟨hname, hsome⟩
      rcases clear with hnone | hne
      · simp [hnone] at hsome
      · exact hne hname
    rw [hfinds, if_neg hlayers, hcommand]
  · rw [hfinds, if_pos ⟨hname, by simp [htoken]⟩, htoken]

def targetStep : Step :=
  ⟨"Build", "cargo build --target $\x7b\x7b env.TARGET \x7d\x7d --locked", none, none,
    .ofList [("TARGET", "thumbv7em")], none⟩

def targetContext : JobContext :=
  ⟨((Settings.initial "/work").withToken "s3cret").withVariable "TARGET" "riscv32", ⟨0, .empty, .stable⟩, .push,
    panicText 1⟩

theorem variable_in_command_target :
    ∃ planned, targetStep.planned = .ok planned ∧
      (targetContext.invocation planned).env.get? "TARGET" = some "thumbv7em" ∧
      (targetContext.invocation planned).command = "cargo build --target thumbv7em --locked" := by
  have hs : parse "cargo build --target " = .ok ⟨[.literal "cargo build --target "]⟩ := by decide +kernel
  have ht : parse " --locked" = .ok ⟨[.literal " --locked"]⟩ := by decide +kernel
  have hplan : targetStep.planned = .ok ⟨targetStep, ⟨[.literal "cargo build --target ",
      .placeholder (.env "TARGET"), .literal " --locked"]⟩⟩ := by decide +kernel
  have named : Names (Text.trim " env.TARGET ".toList) (.env "TARGET") := names_of_ofExpression? (by decide)
  obtain ⟨planned, hplanned, hcommand, -⟩ :=
    targetContext.variable_in_command hs ht (by decide) named targetStep (by decide)
  rw [hplan] at hplanned
  cases hplanned
  refine ⟨_, hplan, by decide, ?_⟩
  rw [hcommand (.inr (by decide))]
  decide

theorem not_every_variable_in_command :
    ¬ ∀ (c : JobContext) (step : Step) (planned : PlannedStep) (name : String), step.planned = .ok planned →
      planned.template = ⟨[.placeholder (.env name)]⟩ →
        (c.invocation planned).command = ((c.invocation planned).env.get? name).getD "" := by
  intro agree
  have hplanned : Step.planned ⟨"report", "$\x7b\x7b env.ACCESS_TOKEN \x7d\x7d", none, none, .empty, none⟩ =
      .ok ⟨⟨"report", "$\x7b\x7b env.ACCESS_TOKEN \x7d\x7d", none, none, .empty, none⟩,
        ⟨[.placeholder (.env tokenVariable)]⟩⟩ := by decide +kernel
  have hcommand := agree ⟨(Settings.initial "/work").withToken "s3cret", ⟨0, .empty, .stable⟩, .manual, panicText 1⟩
    _ _ _ hplanned rfl
  exact absurd hcommand (by decide)

end JobContext
end JobMatrix
