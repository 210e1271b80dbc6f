import JobMatrix.Proofs.DeclarationErrors

/-!
The check of a declaration reports the first of its errors, phase after phase, and accepts exactly the sound
declarations.
-/
namespace JobMatrix.Workflow
variable {w : Workflow} {step : Step} {e : DeclarationError}

/-- The axes of the matrix, scalars being read as texts and other values left out. -/
def textAxes (w : Workflow) : List Axis := w.matrix.entries.map fun entry => ⟨entry.1, textsOf entry.2⟩

theorem mapM_scalarText? (values : List Yaml.Value) :
    values.mapM Yaml.Value.scalarText? =
      if values.all (·.scalarText?.isSome) then some (textsOf values) else none := by
  induction values with
  | nil => rfl
  | cons v rest ih =>
    rw [List.mapM_cons, ih]
    cases hv : v.scalarText? with
    | none => simp [hv]
    | some text => by_cases hr : rest.all (·.scalarText?.isSome) <;> simp [hv, hr, textsOf]

theorem axes_eq (w : Workflow) :
    w.axes = (do firstOf (w.matrix.entries.flatMap scalarErrors); return w.textAxes) := by
  refine mapM_eq_firstOf fun entry _ => ?_
  rw [axisOf, mapM_scalarText?]
  by_cases h : entry.2.all (·.scalarText?.isSome)
  · simp only [if_pos h, scalarErrors]
    rfl
  · simp only [if_neg h, scalarErrors]
    rfl

theorem names_textAxes (w : Workflow) : w.textAxes.map Axis.name = w.matrix.names := by
  simp [textAxes, Table.names, Function.comp_def]

theorem nodup_names_textAxes (w : Workflow) : (w.textAxes.map Axis.name).Nodup := by
  rw [names_textAxes]
  exact w.matrix.distinct

theorem errors_textAxes (scalars : w.matrix.entries.flatMap scalarErrors = []) :
    w.textAxes.flatMap Axis.errors = w.matrix.entries.flatMap axisErrors := by
  rw [textAxes, List.flatMap_map]
  refine List.flatMap_congr fun entry he => ?_
  have hno := List.flatMap_eq_nil_iff.mp scalars entry he
  have hall : entry.2.all (·.scalarText?.isSome) := by
    by_contra hn
    simp [scalarErrors, hn] at hno
  have hempty : (textsOf entry.2).isEmpty = entry.2.isEmpty := by
    cases hv : entry.2 with
    | nil => rfl
    | cons v rest =>
      obtain ⟨text, ht⟩ := Option.isSome_iff_exists.mp (List.all_eq_true.mp hall v (by simp [hv]))
      simp [textsOf, ht]
  rw [Axis.errors, axisErrors, hempty]

theorem find?_textAxes (w : Workflow) (axis : String) :
    w.textAxes.find? (·.name == axis) = (w.matrix.get? axis).map fun values => ⟨axis, textsOf values⟩ := by
  rw [textAxes, Table.get?]
  induction w.matrix.entries with
  | nil => rfl
  | cons entry rest ih =>
    by_cases h : entry.1 = axis
    · simp [Table.valueIn, h]
    · simpa [Table.valueIn, h] using ih

theorem match_find?_textAxes (w : Workflow) (axis value : String) (noAxis noValue : DeclarationError) :
    (match w.textAxes.find? (·.name == axis) with
      | none => .error noAxis
      | some found => if value ∈ found.values then .ok () else .error noValue) =
      firstOf (w.choiceErrors axis value noAxis noValue) := by
  rw [find?_textAxes]
  cases hg : w.matrix.get? axis with
  | none => simp [choiceErrors, w.matrix.get?_eq_none_iff.mp hg, firstOf]
  | some values =>
    have hd : axis ∈ w.matrix.names := by
      by_contra hn
      rw [w.matrix.get?_eq_none_iff.mpr hn] at hg
      cases hg
    by_cases hv : value ∈ textsOf values <;> simp [choiceErrors, hd, valuesOf, hg, hv, firstOf]

theorem checkToolchain_textAxes (w : Workflow) :
    w.toolchain.forM (checkToolchain w.textAxes) = firstOf w.toolchainErrors := by
  cases ht : w.toolchain with
  | none => simp [toolchainErrors, ht, firstOf, Option.forM, pure, Except.pure]
  | some t =>
    simp only [toolchainErrors, ht]
    exact w.match_find?_textAxes t.axis t.pinned _ _

theorem checkNames_append (before rest : List Step) (seen : List String)
    (h : ∀ name, name ∈ seen ↔ name ∈ before.map (·.name)) :
    checkNames seen before.length rest =
      firstOf ((rest.zipIdx before.length).flatMap fun p =>
        nameErrorsAt ((before ++ rest).map (·.name)) p.2 p.1) := by
  induction rest generalizing before seen with
  | nil => rfl
  | cons step rest ih =>
    have htake : ((before ++ step :: rest).map (·.name)).take before.length = before.map (·.name) := by simp
    have hnext : ∀ name, name ∈ step.name :: seen ↔ name ∈ (before ++ [step]).map (·.name) := by
      intro name
      simp only [List.mem_cons, h name, List.map_append, List.map_cons, List.map_nil, List.mem_append]
      simp [or_comm]
    have hlater := ih (before ++ [step]) (step.name :: seen) hnext
    rw [List.length_append, List.length_singleton, List.append_assoc, List.singleton_append] at hlater
    rw [checkNames, List.zipIdx_cons, List.flatMap_cons, nameErrorsAt, htake]
    by_cases hb : Text.isBlankText step.name
    · simp [hb, firstOf]
    · by_cases hm : step.name ∈ before.map (·.name)
      · rw [if_neg hb, if_neg hb, if_pos ((h _).mpr hm), if_pos hm]
        rfl
      · rw [if_neg hb, if_neg hb, if_neg fun hs => hm ((h _).mp hs), if_neg hm, hlater]
        rfl

theorem checkNames_eq_firstOf (steps : List Step) : checkNames [] 0 steps = firstOf (nameErrors steps) :=
  checkNames_append [] steps [] fun _ => Iff.rfl

theorem checkGate_textAxes (w : Workflow) (step : Step) :
    checkGate w.textAxes step = firstOf (w.gateErrors step) := by
  cases hg : step.gate with
  | none => simp [checkGate, gateErrors, hg, firstOf]
  | some gate =>
    simp only [checkGate, gateErrors, hg]
    exact forM_eq_firstOf fun condition _ => w.match_find?_textAxes condition.1 condition.2 _ _

theorem ofSteps_eq (steps : List Step) :
    Plan.ofSteps steps = (do
      firstOf (steps.flatMap commandErrors)
      return steps.map fun step => ⟨step, templateOf step⟩) := by
  refine mapM_eq_firstOf fun step _ => ?_
  cases hp : Template.parse step.command <;> simp [Step.planned, commandErrors, templateOf, hp] <;> rfl

theorem checkPlaceholders_textAxes (w : Workflow) (step : Step) :
    checkPlaceholders w.textAxes ⟨step, templateOf step⟩ = firstOf (w.placeholderErrors step) := by
  refine forM_eq_firstOf fun placeholder _ => ?_
  cases placeholder with
  | matrix axis =>
    have hany : w.textAxes.any (·.name == axis) = decide (axis ∈ w.matrix.names) := by
      rw [← names_textAxes]
      simp [List.any_eq]
    by_cases ha : axis ∈ w.matrix.names <;> simp [checkPlaceholder, hany, ha, firstOf]
  | _ => rfl

theorem check_eq_firstOf (w : Workflow) : w.check = firstOf w.errors := by
  have hgates : w.steps.forM (checkGate w.textAxes) = firstOf (w.steps.flatMap w.gateErrors) :=
    forM_eq_firstOf fun step _ => w.checkGate_textAxes step
  have hplaceholders :
      (w.steps.map fun step => (⟨step, templateOf step⟩ : PlannedStep)).forM (checkPlaceholders w.textAxes) =
        firstOf (w.steps.flatMap w.placeholderErrors) := by
    rw [forM_eq_firstOf (g := fun planned => w.placeholderErrors planned.step), List.flatMap_map]
    intro planned hm
    obtain ⟨step, -, rfl⟩ := List.mem_map.mp hm
    exact w.checkPlaceholders_textAxes step
  have hempty : w.textAxes = [] ↔ w.matrix.names = [] := by
    rw [← names_textAxes, List.map_eq_nil_iff]
  simp only [check, axes_eq, checkAxes_eq_firstOf, checkToolchain_textAxes, checkNames_eq_firstOf, hgates,
    ofSteps_eq, hplaceholders, errors, outlineErrors, stepErrors, firstOf_append, bind_assoc, pure_bind]
  -- The other phases are read off the texts, which are all there once the first phase reports nothing.
  refine firstOf_bind_congr fun scalars => ?_
  simp only [errors_textAxes scalars, hempty]
  by_cases hs : w.steps = []
  · simp only [if_pos hs]
    rfl
  · simp only [if_neg hs]
    rfl

theorem filter_eq_singleton {α : Type} {name : α → String} {l : List α} (h : (l.map name).Nodup) {a : α}
    (ha : a ∈ l) : l.filter (fun b => some (name b) == some (name a)) = [a] := by
  induction l with
  | nil => cases ha
  | cons b rest ih =>
    obtain ⟨hb, hr⟩ := List.nodup_cons.mp h
    rcases List.mem_cons.mp ha with rfl | ha
    · have hnot : ∀ c ∈ rest, name c ≠ name a := fun c hc he => hb (he ▸ List.mem_map_of_mem hc)
      simpa using hnot
    · have hne : name b ≠ name a := fun he => hb (he ▸ List.mem_map_of_mem ha)
      simpa [List.filter_cons, hne] using ih hr ha

/-- A declaration is accepted exactly if it is sound. Otherwise the error is the first of all that are true of
the declaration, phase by phase; and if it is about a gate or a command, the step that it names is one of the
declaration's, the only one of this name, and the one in the wrong. -/
theorem check_reports_first_error (w : Workflow) :
    (w.check = .ok () ↔ w.IsSound) ∧ (∀ e, w.check = .error e ↔ w.errors.head? = some e) ∧
      (∀ e, e ∈ w.errors ↔ w.Violates e) ∧
      ∀ e, w.check = .error e → e.isOfStep = true →
        ∃ step, w.steps.filter (fun s => some s.name == e.step?) = [step] ∧ w.StepViolates step e := by
  refine ⟨?_, fun e => ?_, fun e => mem_errors, fun e he hstep => ?_⟩
  · rw [check_eq_firstOf, firstOf_eq_ok_iff, List.eq_nil_iff_forall_not_mem]
    simp only [mem_errors]
    exact ⟨isSound_of_not_violates, fun h e => h.not_violates⟩
  · rw [check_eq_firstOf, firstOf_eq_error_iff]
  · rw [check_eq_firstOf, firstOf_eq_error_iff, errors] at he
    -- The error comes from the last phases, so the phases before are without one and the names are different.
    cases ho : w.outlineErrors with
    | cons first rest =>
      rw [ho] at he
      cases he
      rw [(mem_outlineErrors.mp (ho ▸ List.mem_cons_self)).1] at hstep
      cases hstep
    | nil =>
      rw [ho] at he
      obtain ⟨step, hs, hv⟩ := mem_stepErrors.mp (List.mem_of_mem_head? he)
      have hnames : (w.steps.map (·.name)).Nodup := by
        refine List.nodup_iff_forall_not_duplicate.mpr fun name hd => ?_
        have hm : .repeatedStepName name ∈ w.outlineErrors := mem_outlineErrors.mpr ⟨rfl, hd⟩
        rw [ho] at hm
        cases hm
      refine ⟨step, ?_, hv⟩
      rw [hv.step?_eq]
      exact filter_eq_singleton hnames hs

/-- The form of every command is checked before the axes that an earlier one mentions. -/
example : check ⟨none, .ofList [], none, none, .ofList [("os", [.string "linux"])],
    [⟨"build", "make $\x7b\x7b matrix.arch \x7d\x7d", none, none, .ofList [], none⟩,
      ⟨"test", "make $\x7b\x7b matrix.os", none, none, .ofList [], none⟩]⟩ =
    .error (.unterminatedPlaceholder "test") := by decide +kernel

end JobMatrix.Workflow
