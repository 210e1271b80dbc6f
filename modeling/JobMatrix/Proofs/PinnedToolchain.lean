import JobMatrix.Proofs.CommandAppend
import JobMatrix.Proofs.GateCount

/-!
The three ways to ask for the pinned toolchain: a gate on the toolchain, a gate on the axis that chooses it, and the
placeholder in a command. A job is pinned once and for all by its values, and the settings that come from the same
declaration name the toolchain after it, so the three agree about every job.
-/
namespace JobMatrix

def Gate.onToolchain (gate : Gate) (toolchain : Toolchain) : Gate := { gate with toolchain := some toolchain }

def Gate.onValue (gate : Gate) (axis value : String) : Gate := { gate with values := gate.values.insert axis value }

def Gate.free : Gate := ⟨none, .empty, []⟩

section Gates
variable {gate : Gate} {job : Job} {trigger : Trigger} {axis value : String}

theorem applies_free (job : Job) (trigger : Trigger) : applies (some .free) job trigger = true := rfl

theorem applies_onToolchain_iff (anyToolchain : gate.toolchain = none) (toolchain : Toolchain) :
    applies (some (gate.onToolchain toolchain)) job trigger = true ↔
      job.toolchain = toolchain ∧ applies (some gate) job trigger = true := by
  rw [applies_iff, applies_iff, anyToolchain]
  simp [Gate.onToolchain]

theorem Job.meets_insert_iff {conditions : Table String} (absent : axis ∉ conditions.names) :
    job.Meets (conditions.insert axis value).entries ↔ job.value? axis = some value ∧ job.Meets conditions.entries := by
  rw [Table.entries_insert_of_not_mem value absent, Meets, List.forall_mem_append, List.forall_mem_singleton,
    and_comm, Meets]

theorem applies_onValue_iff (absent : axis ∉ gate.values.names) (value : String) :
    applies (some (gate.onValue axis value)) job trigger = true ↔
      job.value? axis = some value ∧ applies (some gate) job trigger = true := by
  rw [applies_iff, applies_iff, Gate.onValue, Job.meets_insert_iff absent]
  constructor
  · rintro ⟨htoolchain, ⟨hvalue, hmeets⟩, htrigger⟩
    exact ⟨hvalue, htoolchain, hmeets, htrigger⟩
  · rintro ⟨hvalue, htoolchain, hmeets, htrigger⟩
    exact ⟨htoolchain, ⟨hvalue, hmeets⟩, htrigger⟩

theorem applies_onToolchain_stable (anyToolchain : gate.toolchain = none)
    (rest : applies (some gate) job trigger = true) :
    applies (some (gate.onToolchain .stable)) job trigger = !applies (some (gate.onToolchain .pinned)) job trigger := by
  rw [Bool.eq_iff_iff, Bool.not_eq_true', ← Bool.not_eq_true, applies_onToolchain_iff anyToolchain,
    applies_onToolchain_iff anyToolchain]
  cases ht : job.toolchain with
  | stable => simp [rest]
  | pinned => simp [rest]

end Gates

open Template Text in
/-- The placeholder of the toolchain stands for a label in every command for a job, wherever it stands. -/
def Settings.NamesToolchain (settings : Settings) (job : Job) (label : String) : Prop :=
  ∀ before after first second e, parse before = .ok first → parse after = .ok second →
    ¬ closing <:+: e ++ ['\x7d'] → Names (trim e) .toolchain →
      ∃ whole, parse (before ++ written e ++ after) = .ok whole ∧ ∀ stepEnv,
        whole.resolve job settings stepEnv =
          first.resolve job settings stepEnv ++ label ++ second.resolve job settings stepEnv

theorem Settings.namesToolchain (settings : Settings) (job : Job) :
    settings.NamesToolchain job (settings.toolchainLabel job) := by
  intro before after first second e hbefore hafter closed named
  obtain ⟨whole, hwhole, -, hrender⟩ := Template.parse_around hbefore hafter closed named
  exact ⟨whole, hwhole, fun stepEnv => hrender (Template.valueOf job settings stepEnv)⟩

namespace Workflow
variable {w : Workflow} {settings : Settings} {directory : String} {b : Build} {jobs : List Job} {job : Job}
  {t : ToolchainAxis}

theorem toolchainLabel_ofWorkflow (declared : w.toolchain = some t) (job : Job) :
    (Settings.ofWorkflow w directory).toolchainLabel job =
      if job.toolchain = .pinned then t.version.getD t.pinned else t.stable := by
  rw [Settings.ofWorkflow, declared, Settings.toolchainLabel]
  cases job.toolchain with
  | stable => rfl
  | pinned => rfl

theorem toolchainLabel_of_undeclared (undeclared : w.toolchain = none) (hjob : job.toolchain = .stable) :
    (Settings.ofWorkflow w directory).toolchainLabel job = "stable" := by
  rw [Settings.ofWorkflow, undeclared, Settings.toolchainLabel, hjob]
  rfl

theorem toolchain_of_undeclared (undeclared : w.toolchain = none)
    (expands : (w.soundBuild settings).expand = .ok jobs) (hj : job ∈ jobs) : job.toolchain = .stable := by
  cases htoolchain : job.toolchain with
  | stable => rfl
  | pinned =>
    obtain ⟨t, ht, -⟩ := (toolchain_eq_pinned_iff expands hj).mp htoolchain
    rw [undeclared] at ht
    cases ht

theorem toolchain_eq_pinned_iff_value (declared : w.toolchain = some t)
    (expands : (w.soundBuild settings).expand = .ok jobs) (hj : job ∈ jobs) :
    job.toolchain = .pinned ↔ job.value? t.axis = some t.pinned := by
  rw [toolchain_eq_pinned_iff expands hj, declared]
  simp

/-- A gate on the pinned toolchain applies to a job when the same gate on the pinned value does, and when the one on
the other toolchain does not, whatever its other conditions are as long as they hold. The placeholder of the toolchain
stands for the version, or else for the value of the job, where the gate applies, and for the stable label where it
does not. Without a declared toolchain no such gate applies, and the placeholder stands for the standard label. -/
theorem pinned_requests_agree (made : Build.ofWorkflow w (.ofWorkflow w directory) = .ok b)
    (expands : b.expand = .ok jobs) (hj : job ∈ jobs) (trigger : Trigger) :
    (∀ t, w.toolchain = some t →
      (∀ gate : Gate, gate.toolchain = none → t.axis ∉ gate.values.names →
        applies (some (gate.onToolchain .pinned)) job trigger =
          applies (some (gate.onValue t.axis t.pinned)) job trigger ∧
        (applies (some gate) job trigger = true →
          applies (some (gate.onToolchain .pinned)) job trigger =
            !applies (some (gate.onToolchain .stable)) job trigger)) ∧
      (applies (some (Gate.free.onToolchain .pinned)) job trigger = true →
        ∃ own, job.value? t.axis = some own ∧ b.settings.NamesToolchain job (t.version.getD own)) ∧
      (applies (some (Gate.free.onToolchain .pinned)) job trigger = false →
        b.settings.NamesToolchain job t.stable)) ∧
    (w.toolchain = none →
      (∀ gate : Gate, applies (some (gate.onToolchain .pinned)) job trigger = false) ∧
      b.settings.NamesToolchain job "stable") := by
  obtain ⟨-, rfl⟩ := ofWorkflow_eq_ok_iff_check.mp made
  have hnames : (Settings.ofWorkflow w directory).NamesToolchain job _ := Settings.namesToolchain _ job
  constructor
  · intro t ht
    have hvalue := toolchain_eq_pinned_iff_value ht expands hj
    have hfree : applies (some (Gate.free.onToolchain .pinned)) job trigger = true ↔
        job.toolchain = .pinned ∧ applies (some .free) job trigger = true := applies_onToolchain_iff rfl .pinned
    rw [toolchainLabel_ofWorkflow ht] at hnames
    refine ⟨fun gate anyToolchain absent => ⟨?_, fun rest => ?_⟩, fun happlies => ?_, fun hfails => ?_⟩
    · rw [Bool.eq_iff_iff, applies_onToolchain_iff anyToolchain, applies_onValue_iff absent, hvalue]
    · rw [applies_onToolchain_stable anyToolchain rest, Bool.not_not]
    · -- the settings fall back to the pinned value, and that is the job's own
      have hjob := (hfree.mp happlies).1
      rw [if_pos hjob] at hnames
      exact ⟨t.pinned, hvalue.mp hjob, hnames⟩
    · have hjob : job.toolchain ≠ .pinned := by
        intro hjob
        rw [hfree.mpr ⟨hjob, applies_free job trigger⟩] at hfails
        cases hfails
      rw [if_neg hjob] at hnames
      exact hnames
  · intro undeclared
    have hjob := toolchain_of_undeclared undeclared expands hj
    refine ⟨fun gate => ?_, ?_⟩
    · rw [← Bool.not_eq_true, applies_iff]
      rintro ⟨htoolchain, -, -⟩
      rw [htoolchain .pinned rfl] at hjob
      cases hjob
    · rw [toolchainLabel_of_undeclared undeclared hjob] at hnames
      exact hnames

theorem pinned_requests_agree_for_backends :
    ∃ b jobs job, Build.ofWorkflow backendWorkflow (.ofWorkflow backendWorkflow "/work") = .ok b ∧
      b.expand = .ok jobs ∧ job ∈ jobs ∧
      applies (some ⟨none, .ofList [("toolchain", "nightly")], []⟩) job .push = true ∧
      applies (some ⟨some .stable, .empty, []⟩) job .push = false ∧
      ∃ command, Template.parse "cargo +$\x7b\x7b toolchain \x7d\x7d miri" = .ok command ∧
        command.resolve job b.settings .empty = "cargo +nightly miri" := by
  have made := ofWorkflow_of_check check_backendWorkflow (.ofWorkflow backendWorkflow "/work")
  have expands := expand_eq_ok (checkAxes_of_check check_backendWorkflow)
    (show combinationCount backendWorkflow.textAxes ≤ jobLimit by decide)
  have hj : jobAt backendWorkflow.textAxes backendWorkflow.toolchain 1 ∈
      (List.range (combinationCount backendWorkflow.textAxes)).map
        (jobAt backendWorkflow.textAxes backendWorkflow.toolchain) :=
    List.mem_map_of_mem (List.mem_range.mpr (by decide))
  obtain ⟨hdeclared, -⟩ := pinned_requests_agree made expands hj .push
  obtain ⟨hgates, hnamed, -⟩ := hdeclared .standard rfl
  obtain ⟨hvalue, hstable⟩ := hgates .free rfl (by decide)
  have hpinned : applies (some (Gate.free.onToolchain .pinned))
      (jobAt backendWorkflow.textAxes backendWorkflow.toolchain 1) .push = true := by decide
  obtain ⟨own, hown, hnames⟩ := hnamed hpinned
  refine ⟨_, _, _, made, expands, hj, hvalue ▸ hpinned, ?_, ?_⟩
  · have hnot := (hstable (applies_free _ _)).symm.trans hpinned
    simpa [Gate.free, Gate.onToolchain] using hnot
  · have hbefore : Template.parse "cargo +" = .ok ⟨[.literal "cargo +"]⟩ := by decide +kernel
    have hafter : Template.parse " miri" = .ok ⟨[.literal " miri"]⟩ := by decide +kernel
    obtain ⟨whole, hwhole, hresolve⟩ := hnames _ _ _ _ " toolchain ".toList hbefore hafter (by decide) .toolchain
    refine ⟨whole, hwhole, (hresolve .empty).trans ?_⟩
    obtain rfl : "nightly" = own := Option.some.inj hown
    rfl

end Workflow
end JobMatrix
