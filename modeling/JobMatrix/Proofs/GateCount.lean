import JobMatrix.Proofs.DeclaredValues

/-!
How many jobs a step applies to. Each condition on a value leaves one value of its axis, so the jobs that meet the
conditions are the product of the axes cut down to what the conditions leave.
-/
namespace JobMatrix

def Table.allows (conditions : Table String) (axis value : String) : Bool :=
  (conditions.get? axis).all (value == ·)

def Axis.under (conditions : Table String) (axis : Axis) : Axis :=
  ⟨axis.name, axis.values.filter (conditions.allows axis.name)⟩

def Job.Meets (job : Job) (conditions : List (String × String)) : Prop :=
  ∀ condition ∈ conditions, job.value? condition.1 = some condition.2

instance (job : Job) (conditions : List (String × String)) : Decidable (job.Meets conditions) :=
  inferInstanceAs (Decidable (∀ condition ∈ conditions, job.value? condition.1 = some condition.2))

theorem Gate.valueReason?_eq_none_iff {job : Job} {conditions : List (String × String)} :
    valueReason? job conditions = none ↔ job.Meets conditions := by
  induction conditions with
  | nil => simp [valueReason?, Job.Meets]
  | cons condition rest ih =>
    obtain ⟨axis, required⟩ := condition
    have hcons : job.Meets ((axis, required) :: rest) ↔ job.value? axis = some required ∧ job.Meets rest :=
      List.forall_mem_cons
    rw [hcons]
    cases hv : job.value? axis with
    | none => simp [valueReason?, hv]
    | some actual => by_cases ha : actual = required <;> simp [valueReason?, hv, ha, ih]

theorem applies_iff {gate : Gate} {job : Job} {trigger : Trigger} : applies (some gate) job trigger = true ↔
    (∀ t, gate.toolchain = some t → job.toolchain = t) ∧ job.Meets gate.values.entries ∧
      (gate.triggers = [] ∨ trigger ∈ gate.triggers) := by
  have htoolchain : Gate.toolchainReason? gate.toolchain job = none ↔
      ∀ t, gate.toolchain = some t → job.toolchain = t := by
    cases hg : gate.toolchain with
    | none => simp [Gate.toolchainReason?]
    | some t => simp [Gate.toolchainReason?]
  have htrigger : Gate.triggerReason? gate.triggers trigger = none ↔ gate.triggers = [] ∨ trigger ∈ gate.triggers := by
    by_cases h : gate.triggers = [] ∨ trigger ∈ gate.triggers
    · rw [Gate.triggerReason?, if_pos h]
      exact iff_of_true rfl h
    · rw [Gate.triggerReason?, if_neg h]
      exact iff_of_false (Option.some_ne_none _) h
  rw [← htoolchain, ← Gate.valueReason?_eq_none_iff, ← htrigger]
  simp only [applies, skipReason?, Gate.reason?, Option.bind_some, Option.isNone_iff_eq_none, Option.or_eq_none_iff]

theorem applies_iff_meets {gate : Gate} (anyToolchain : gate.toolchain = none) (anyTrigger : gate.triggers = [])
    (job : Job) (trigger : Trigger) : applies (some gate) job trigger = true ↔ job.Meets gate.values.entries := by
  rw [applies_iff, anyToolchain, anyTrigger]
  simp

theorem flatMap_if {α : Type} (keep : String → Bool) (values : List String) (f : String → List α) :
    (values.flatMap fun v => if keep v then f v else []) = (values.filter keep).flatMap f := by
  induction values with
  | nil => rfl
  | cons v rest ih => cases hv : keep v <;> simp [hv, ih]

theorem filter_combinations (keep : Axis → String → Bool) (axes : List Axis) :
    (combinations axes).filter (fun choice => (axes.zip choice).all fun (axis, value) => keep axis value) =
      combinations (axes.map fun axis => ⟨axis.name, axis.values.filter (keep axis)⟩) := by
  induction axes with
  | nil => rfl
  | cons axis rest ih =>
    have hvalue : ∀ v, ((combinations rest).map (v :: ·)).filter
          (fun choice => ((axis :: rest).zip choice).all fun (axis, value) => keep axis value) =
        if keep axis v then
          (combinations (rest.map fun axis => ⟨axis.name, axis.values.filter (keep axis)⟩)).map (v :: ·)
        else [] := by
      intro v
      rw [List.filter_map, ← ih]
      cases hv : keep axis v <;> simp [Function.comp_def, hv]
    rw [combinations, List.filter_flatMap, List.map_cons, combinations, ← flatMap_if]
    exact List.flatMap_congr fun v _ => hvalue v

section Counting
variable {axes : List Axis} {conditions : Table String}

theorem value?_jobAt_of_mem_zip (toolchain : Option ToolchainAxis) (distinct : (axes.map Axis.name).Nodup)
    {number : Nat} {axis : Axis} {value : String}
    (h : (axis, value) ∈ axes.zip (valuesAt axes (positions axes number).1)) :
    (jobAt axes toolchain number).value? axis.name = some value := by
  rw [Job.value?, Table.get?_eq_some_iff, entries_jobAt toolchain distinct, List.zip_map_left]
  exact List.mem_map_of_mem (f := Prod.map Axis.name id) h

theorem meets_jobAt_iff (toolchain : Option ToolchainAxis) (distinct : (axes.map Axis.name).Nodup)
    (declared : conditions.names ⊆ axes.map Axis.name) (number : Nat) :
    (jobAt axes toolchain number).Meets conditions.entries ↔
      ((axes.zip (valuesAt axes (positions axes number).1)).all fun (axis, value) =>
        conditions.allows axis.name value) = true := by
  have hvalue : ∀ axis value, (axis, value) ∈ axes.zip (valuesAt axes (positions axes number).1) →
      (jobAt axes toolchain number).value? axis.name = some value := fun _ _ hz =>
    value?_jobAt_of_mem_zip toolchain distinct hz
  simp only [List.all_eq_true, Prod.forall]
  constructor
  · intro h axis value hz
    cases hc : conditions.get? axis.name with
    | none => simp [Table.allows, hc]
    | some required =>
      have hrequired := h (axis.name, required) (conditions.get?_eq_some_iff.mp hc)
      rw [hvalue axis value hz] at hrequired
      rw [Table.allows, hc, Option.all_some, beq_iff_eq]
      exact Option.some.inj hrequired
  · rintro h ⟨name, required⟩ hc
    obtain ⟨axis, ha, rfl⟩ := List.mem_map.mp (declared (List.mem_map.mpr ⟨_, hc, rfl⟩))
    have hfst : (axes.zip (valuesAt axes (positions axes number).1)).map Prod.fst = axes :=
      List.map_fst_zip (by simp [length_valuesAt_positions])
    rw [← hfst] at ha
    obtain ⟨⟨axis, value⟩, hz, rfl⟩ := List.mem_map.mp ha
    have hallowed := h axis value hz
    rw [Table.allows, conditions.get?_eq_some_iff.mpr hc, Option.all_some, beq_iff_eq] at hallowed
    exact (hvalue axis value hz).trans (congrArg some hallowed)

theorem countP_meets (toolchain : Option ToolchainAxis) (distinct : (axes.map Axis.name).Nodup)
    (positive : ∀ axis ∈ axes, 0 < axis.size) (declared : conditions.names ⊆ axes.map Axis.name) :
    ((List.range (combinationCount axes)).map (jobAt axes toolchain)).countP (·.Meets conditions.entries) =
      combinationCount (axes.map (Axis.under conditions)) := by
  let left (choice : List String) : Bool := (axes.zip choice).all fun (axis, value) => conditions.allows axis.name value
  have hjobs : ∀ number ∈ List.range (combinationCount axes),
      decide ((jobAt axes toolchain number).Meets conditions.entries) = true ↔
        left (valuesAt axes (positions axes number).1) = true := by
    intro number _
    rw [decide_eq_true_iff]
    exact meets_jobAt_iff toolchain distinct declared number
  calc ((List.range (combinationCount axes)).map (jobAt axes toolchain)).countP (·.Meets conditions.entries)
      = (List.range (combinationCount axes)).countP fun n => left (valuesAt axes (positions axes n).1) := by
        rw [List.countP_map]
        exact List.countP_congr hjobs
    _ = (combinations axes).countP left := by
        rw [← map_valuesAt_range positive, List.countP_map]
        rfl
    _ = combinationCount (axes.map (Axis.under conditions)) := by
        rw [List.countP_eq_length_filter, filter_combinations (fun axis => conditions.allows axis.name),
          length_combinations]
        rfl

theorem size_under {axis : Axis} (distinct : axis.values.Nodup)
    (offered : ∀ required, conditions.get? axis.name = some required → required ∈ axis.values) :
    (axis.under conditions).size * (if axis.name ∈ conditions.names then axis.size else 1) = axis.size := by
  cases hc : conditions.get? axis.name with
  | none =>
    have hall : conditions.allows axis.name = fun _ => true := by
      funext value
      rw [Table.allows, hc, Option.all_none]
    rw [if_neg (conditions.get?_eq_none_iff.mp hc), Axis.under, hall, List.filter_true, Nat.mul_one]
  | some required =>
    have hname : axis.name ∈ conditions.names :=
      List.mem_map.mpr ⟨_, conditions.get?_eq_some_iff.mp hc, rfl⟩
    have hall : conditions.allows axis.name = (· == required) := by
      funext value
      rw [Table.allows, hc, Option.all_some]
    have hone : (axis.under conditions).size = 1 := by
      rw [Axis.size, Axis.under, hall, ← List.count_eq_length_filter]
      exact List.count_eq_one_of_mem distinct (offered required hc)
    rw [if_pos hname, hone, Nat.one_mul]

theorem combinationCount_under (distinct : ∀ axis ∈ axes, axis.values.Nodup)
    (offered : ∀ axis ∈ axes, ∀ required, conditions.get? axis.name = some required → required ∈ axis.values) :
    combinationCount (axes.map (Axis.under conditions)) *
        combinationCount (axes.filter fun axis => axis.name ∈ conditions.names) = combinationCount axes := by
  have hgated : combinationCount (axes.filter fun axis => axis.name ∈ conditions.names) =
      (axes.map fun axis => if axis.name ∈ conditions.names then axis.size else 1).prod := by
    rw [List.prod_map_ite, List.map_const', List.prod_replicate, one_pow, Nat.mul_one]
    rfl
  rw [hgated, combinationCount, List.map_map, ← List.prod_map_mul]
  refine congrArg List.prod (List.map_congr_left fun axis ha => ?_)
  exact size_under (distinct axis ha) (offered axis ha)

end Counting

namespace Workflow
variable {w : Workflow} {settings : Settings} {b : Build} {jobs : List Job} {conditions : Table String}

theorem combinationCount_filter_textAxes (declared : conditions.names ⊆ w.matrix.names) :
    combinationCount (w.textAxes.filter fun axis => axis.name ∈ conditions.names) =
      (conditions.names.map fun axis => (w.valuesOf axis).length).prod := by
  let gated := w.textAxes.filter fun axis => axis.name ∈ conditions.names
  have hsizes : gated.map Axis.size = (gated.map Axis.name).map fun axis => (w.valuesOf axis).length := by
    rw [List.map_map]
    refine List.map_congr_left fun axis ha => ?_
    exact congrArg List.length (values_of_mem_textAxes (List.mem_filter.mp ha).1)
  have hdistinct : (gated.map Axis.name).Nodup :=
    w.nodup_names_textAxes.sublist (List.filter_sublist.map Axis.name)
  have hnames : (gated.map Axis.name).Perm conditions.names := by
    refine (List.perm_ext_iff_of_nodup hdistinct conditions.distinct).mpr fun name => ?_
    constructor
    · intro hm
      obtain ⟨axis, ha, rfl⟩ := List.mem_map.mp hm
      exact of_decide_eq_true (List.mem_filter.mp ha).2
    · intro hm
      obtain ⟨axis, ha, rfl⟩ := List.mem_map.mp (names_textAxes w ▸ declared hm)
      exact List.mem_map_of_mem (List.mem_filter.mpr ⟨ha, decide_eq_true hm⟩)
  change (gated.map Axis.size).prod = _
  rw [hsizes]
  exact (hnames.map _).prod_eq

theorem countP_meets_mul (expands : (w.soundBuild settings).expand = .ok jobs)
    (offered : ∀ axis value, conditions.get? axis = some value → axis ∈ w.matrix.names ∧ value ∈ w.valuesOf axis) :
    jobs.countP (·.Meets conditions.entries) * (conditions.names.map fun axis => (w.valuesOf axis).length).prod =
      jobs.length := by
  obtain ⟨haxes, -, rfl⟩ := expand_eq_ok_iff.mp (show expand w.textAxes w.toolchain = .ok jobs from expands)
  have hdeclared : conditions.names ⊆ w.matrix.names := by
    intro name hm
    obtain ⟨⟨name, value⟩, he, rfl⟩ := List.mem_map.mp hm
    exact (offered name value (conditions.get?_eq_some_iff.mpr he)).1
  have hoffered : ∀ axis ∈ w.textAxes, ∀ required, conditions.get? axis.name = some required →
      required ∈ axis.values := by
    intro axis ha required hr
    rw [values_of_mem_textAxes ha]
    exact (offered axis.name required hr).2
  rw [← combinationCount_filter_textAxes hdeclared,
    countP_meets w.toolchain w.nodup_names_textAxes (size_pos_of_checkAxes haxes) (by rwa [names_textAxes]),
    combinationCount_under (fun axis ha => (values_of_checkAxes haxes axis ha).2) hoffered,
    List.length_map, List.length_range]

theorem length_pos_of_expand (expands : (w.soundBuild settings).expand = .ok jobs) : 0 < jobs.length := by
  obtain ⟨haxes, -, rfl⟩ := expand_eq_ok_iff.mp (show expand w.textAxes w.toolchain = .ok jobs from expands)
  rw [List.length_map, List.length_range]
  exact combinationCount_pos (size_pos_of_checkAxes haxes)

theorem toolchain_eq_pinned_iff (expands : (w.soundBuild settings).expand = .ok jobs) {job : Job} (hj : job ∈ jobs) :
    job.toolchain = .pinned ↔ ∃ t, w.toolchain = some t ∧ job.value? t.axis = some t.pinned := by
  rw [toolchain_of_expand (show expand w.textAxes w.toolchain = .ok jobs from expands) hj]
  exact toolchainOf_eq_pinned_iff w.toolchain job.values

theorem pinned_iff_meets (expands : (w.soundBuild settings).expand = .ok jobs) {t : ToolchainAxis}
    (ht : w.toolchain = some t) {job : Job} (hj : job ∈ jobs) :
    job.toolchain = .pinned ↔ job.Meets (Table.empty.insert t.axis t.pinned).entries := by
  rw [toolchain_eq_pinned_iff expands hj]
  constructor
  · rintro ⟨u, hu, hvalue⟩ condition hc
    rw [ht] at hu
    cases hu
    obtain rfl := List.mem_singleton.mp hc
    exact hvalue
  · intro hmeets
    exact ⟨t, ht, hmeets (t.axis, t.pinned) (List.mem_singleton.mpr rfl)⟩

/-- Of the jobs of a checked declaration, a step that is gated on values only applies to as many as there are choices
on the other axes: their number times the sizes of the gated axes is the number of all jobs, so there is one. In the
same way there is one pinned job for each choice on the axes beside that of the toolchain. -/
theorem gated_jobs_counted (made : Build.ofWorkflow w settings = .ok b) (expands : b.expand = .ok jobs) :
    (∀ trigger, ∀ step ∈ w.steps, ∀ gate, step.gate = some gate → gate.toolchain = none → gate.triggers = [] →
      jobs.countP (applies step.gate · trigger) *
          (gate.values.names.map fun axis => (w.valuesOf axis).length).prod = jobs.length ∧
        ∃ job ∈ jobs, applies step.gate job trigger = true) ∧
      ∀ t, w.toolchain = some t →
        jobs.countP (·.toolchain = .pinned) * (w.valuesOf t.axis).length = jobs.length := by
  obtain ⟨checked, rfl⟩ := ofWorkflow_eq_ok_iff_check.mp made
  have sound := isSound_of_check checked
  constructor
  · intro trigger step hs gate hg anyToolchain anyTrigger
    have happlies : jobs.countP (applies step.gate · trigger) = jobs.countP (·.Meets gate.values.entries) := by
      refine List.countP_congr fun job _ => ?_
      rw [hg, applies_iff_meets anyToolchain anyTrigger, decide_eq_true_iff]
    have hcount := countP_meets_mul expands (sound.gates step hs gate hg)
    rw [← happlies] at hcount
    refine ⟨hcount, List.countP_pos_iff.mp (Nat.pos_of_ne_zero fun hzero => ?_)⟩
    have hpos := length_pos_of_expand expands
    rw [hzero, Nat.zero_mul] at hcount
    omega
  · intro t ht
    have hoffered : ∀ axis value, (Table.empty.insert t.axis t.pinned).get? axis = some value →
        axis ∈ w.matrix.names ∧ value ∈ w.valuesOf axis := by
      intro axis value hget
      by_cases ha : axis = t.axis
      · rw [Table.get?_insert, if_pos ha] at hget
        cases hget
        exact ha ▸ sound.toolchain t ht
      · rw [Table.get?_insert, if_neg ha] at hget
        cases hget
    have hpinned : jobs.countP (·.toolchain = .pinned) =
        jobs.countP (·.Meets (Table.empty.insert t.axis t.pinned).entries) := by
      refine List.countP_congr fun job hj => ?_
      rw [decide_eq_true_iff, decide_eq_true_iff]
      exact pinned_iff_meets expands ht hj
    rw [hpinned, ← countP_meets_mul expands hoffered]
    exact congrArg _ (Nat.mul_one _).symm

def miriWorkflow : Workflow where
  name := some "miri"
  env := .empty
  toolchain := some .standard
  maxParallel := none
  matrix := .ofList [("os", [.string "linux", .string "windows", .string "macos"]),
    ("release", [.bool false, .bool true]), ("toolchain", [.string "stable", .string "nightly"])]
  steps := [⟨"Miri", "cargo miri test", some ⟨none, .ofList [("toolchain", "nightly"), ("os", "linux")], []⟩, none,
    .empty, none⟩]

theorem gated_jobs_of_miriWorkflow_counted :
    ∃ b jobs, Build.ofWorkflow miriWorkflow (.initial "/work") = .ok b ∧ b.expand = .ok jobs ∧ jobs.length = 12 ∧
      (∀ step ∈ miriWorkflow.steps, jobs.countP (applies step.gate · .push) = 2) ∧
      jobs.countP (·.toolchain = .pinned) = 6 := by
  have checked : miriWorkflow.check = .ok () := by decide +kernel
  have made : Build.ofWorkflow miriWorkflow (.initial "/work") = .ok (miriWorkflow.soundBuild (.initial "/work")) :=
    ofWorkflow_eq_ok_iff_check.mpr ⟨checked, rfl⟩
  have expands := expand_eq_ok (checkAxes_of_check checked)
    (show combinationCount miriWorkflow.textAxes ≤ jobLimit by decide)
  obtain ⟨hgated, hpinned⟩ := gated_jobs_counted made expands
  have hlength : ((List.range (combinationCount miriWorkflow.textAxes)).map
      (jobAt miriWorkflow.textAxes miriWorkflow.toolchain)).length = 12 := by decide
  refine ⟨_, _, made, expands, hlength, fun step hs => ?_, ?_⟩
  · obtain rfl := List.mem_singleton.mp hs
    have hcount := (hgated .push _ hs _ rfl rfl rfl).1
    have hsizes : ((Table.ofList [("toolchain", "nightly"), ("os", "linux")]).names.map fun axis =>
        (miriWorkflow.valuesOf axis).length).prod = 6 := by decide
    rw [hsizes, hlength] at hcount
    omega
  · have hcount := hpinned _ rfl
    have hsize : (miriWorkflow.valuesOf ToolchainAxis.standard.axis).length = 2 := by decide
    rw [hsize, hlength] at hcount
    omega

end Workflow
end JobMatrix
