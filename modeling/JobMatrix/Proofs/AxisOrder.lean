import JobMatrix.Proofs.SoundBuild
import JobMatrix.Proofs.Rehearsal

/-!
The order in which the axes are declared. Nothing but the names and the numbers of the jobs depends on it: a
declaration with its axes in another order is accepted as well, and its jobs are the same up to their order.
-/
namespace JobMatrix
variable {j k : Job}

structure Job.IsLike (j k : Job) : Prop where
  values : ∀ axis, j.value? axis = k.value? axis
  toolchain : j.toolchain = k.toolchain

namespace Job.IsLike

theorem symm (h : j.IsLike k) : k.IsLike j := ⟨fun axis => (h.values axis).symm, h.toolchain.symm⟩

theorem trans {l : Job} (h : j.IsLike k) (h' : k.IsLike l) : j.IsLike l :=
  ⟨fun axis => (h.values axis).trans (h'.values axis), h.toolchain.trans h'.toolchain⟩

theorem valueReason?_eq (h : j.IsLike k) (conditions : List (String × String)) :
    Gate.valueReason? j conditions = Gate.valueReason? k conditions := by
  induction conditions with
  | nil => rfl
  | cons condition rest ih =>
    obtain ⟨axis, required⟩ := condition
    rw [Gate.valueReason?, Gate.valueReason?, h.values, ih]

theorem skipReason?_eq (h : j.IsLike k) (gate : Option Gate) (trigger : Trigger) :
    skipReason? gate j trigger = skipReason? gate k trigger := by
  cases gate with
  | none => rfl
  | some gate =>
    have htoolchain : Gate.toolchainReason? gate.toolchain j = Gate.toolchainReason? gate.toolchain k := by
      unfold Gate.toolchainReason?
      rw [h.toolchain]
    simp only [skipReason?, Option.bind_some, Gate.reason?, htoolchain, h.valueReason?_eq]

theorem shownValueOf_eq (h : j.IsLike k) (settings : Settings) (env : Table String) :
    Template.shownValueOf j settings env = Template.shownValueOf k settings env := by
  funext placeholder
  cases placeholder with
  | matrix axis => simp only [Template.shownValueOf, Template.valueOf, h.values]
  | toolchain => simp only [Template.shownValueOf, Template.valueOf, Settings.toolchainLabel, h.toolchain]
  | env name => rfl
  | token => rfl

theorem rehearse_eq (h : j.IsLike k) (b : Build) (trigger : Trigger) : b.rehearse j trigger = b.rehearse k trigger := by
  refine List.map_congr_left fun s _ => ?_
  rw [h.skipReason?_eq, Template.display, Template.display, h.shownValueOf_eq]

end Job.IsLike

section Reordering
variable {axes others : List Axis} {toolchain : Option ToolchainAxis} {jobs twins : List Job}

theorem checkToolchain_eq_ok_iff (distinct : (axes.map Axis.name).Nodup) {t : ToolchainAxis} :
    checkToolchain axes t = .ok () ↔ ∃ axis ∈ axes, axis.name = t.axis ∧ t.pinned ∈ axis.values := by
  rw [checkToolchain]
  cases hf : axes.find? (·.name == t.axis) with
  | none =>
    have hno : ∀ axis ∈ axes, axis.name ≠ t.axis := by simpa using hf
    constructor
    · intro h
      cases h
    · rintro ⟨axis, ha, hname, -⟩
      exact absurd hname (hno axis ha)
  | some axis =>
    have ha : axis ∈ axes := List.mem_of_find?_eq_some hf
    have hname : axis.name = t.axis := by simpa using List.find?_some hf
    have honly : ∀ other ∈ axes, other.name = t.axis → other = axis := fun other ho hn =>
      List.inj_on_of_nodup_map distinct ho ha (hn.trans hname.symm)
    by_cases hp : t.pinned ∈ axis.values
    · simp only [if_pos hp, true_iff]
      exact ⟨axis, ha, hname, hp⟩
    · simp only [if_neg hp, reduceCtorEq, false_iff]
      rintro ⟨other, ho, hn, hv⟩
      exact hp (honly other ho hn ▸ hv)

theorem checkAxes_eq_ok_iff (distinct : (axes.map Axis.name).Nodup) : checkAxes axes toolchain = .ok () ↔
    axes ≠ [] ∧ (∀ axis ∈ axes, axis.values ≠ [] ∧ axis.values.Nodup) ∧
      ∀ t, toolchain = some t → ∃ axis ∈ axes, axis.name = t.axis ∧ t.pinned ∈ axis.values := by
  have hempty : (if axes = [] then [DeclarationError.noAxes] else []) = [] ↔ axes ≠ [] := by
    by_cases h : axes = [] <;> simp [h]
  have htoolchain : toolchain.forM (checkToolchain axes) = .ok () ↔
      ∀ t, toolchain = some t → ∃ axis ∈ axes, axis.name = t.axis ∧ t.pinned ∈ axis.values := by
    cases toolchain with
    | none => exact iff_of_true rfl nofun
    | some t =>
      have hforM : (some t).forM (checkToolchain axes) = checkToolchain axes t := rfl
      rw [hforM, checkToolchain_eq_ok_iff distinct]
      simp
  rw [checkAxes_eq_firstOf, bind_unit_eq_ok_iff, firstOf_eq_ok_iff, List.append_eq_nil_iff, hempty,
    List.flatMap_eq_nil_iff, htoolchain, and_assoc]
  simp only [Axis.errors_eq_nil_iff]

theorem nodup_names_perm (distinct : (axes.map Axis.name).Nodup) (reordered : axes.Perm others) :
    (others.map Axis.name).Nodup := (reordered.map Axis.name).nodup_iff.mp distinct

theorem checkAxes_perm (distinct : (axes.map Axis.name).Nodup) (reordered : axes.Perm others) :
    checkAxes axes toolchain = .ok () ↔ checkAxes others toolchain = .ok () := by
  have hempty : axes = [] ↔ others = [] := by
    rw [← List.length_eq_zero_iff, ← List.length_eq_zero_iff, reordered.length_eq]
  rw [checkAxes_eq_ok_iff distinct, checkAxes_eq_ok_iff (nodup_names_perm distinct reordered)]
  simp only [reordered.mem_iff, ne_eq, hempty]

theorem combinationCount_perm (reordered : axes.Perm others) : combinationCount axes = combinationCount others :=
  (reordered.map Axis.size).prod_eq

theorem exists_expand_perm (distinct : (axes.map Axis.name).Nodup) (reordered : axes.Perm others) :
    (∃ jobs, expand axes toolchain = .ok jobs) ↔ ∃ twins, expand others toolchain = .ok twins := by
  simp only [expand_eq_ok_iff, checkAxes_perm distinct reordered, combinationCount_perm reordered, exists_and_left,
    exists_eq]

theorem nodup_of_expand (expands : expand axes toolchain = .ok jobs) : jobs.Nodup := by
  obtain ⟨-, -, rfl⟩ := expand_eq_ok_iff.mp expands
  exact List.nodup_range.map fun n m heq => congrArg Job.index heq

theorem eq_of_isLike (distinct : (axes.map Axis.name).Nodup) (expands : expand axes toolchain = .ok jobs)
    (hj : j ∈ jobs) (hk : k ∈ jobs) (alike : j.IsLike k) : j = k := by
  obtain ⟨checked, -, rfl⟩ := expand_eq_ok_iff.mp expands
  have hpos := size_pos_of_checkAxes checked
  obtain ⟨n, -, rfl⟩ := List.mem_map.mp hj
  have hchoice := mem_valuesAt (positions_lt_size hpos n)
  have hvalues := map_value?_jobAt toolchain distinct n
  have hnodup : ∀ axis ∈ axes, axis.values.Nodup := fun axis ha => (values_of_checkAxes checked axis ha).2
  have honly := existsUnique_jobAt toolchain distinct hpos hnodup hchoice
  refine honly.unique ⟨hj, hvalues⟩ ⟨hk, ?_⟩
  rw [← hvalues]
  exact List.map_congr_left fun axis _ => (alike.values axis.name).symm

theorem toolchainOf_congr {first second : Table String} (h : ∀ axis, first.get? axis = second.get? axis) :
    toolchainOf toolchain first = toolchainOf toolchain second := by
  cases toolchain with
  | none => rfl
  | some t => simp only [toolchainOf, h]

theorem value?_jobAt_eq_none (distinct : (axes.map Axis.name).Nodup) {name : String}
    (undeclared : name ∉ axes.map Axis.name) (number : Nat) : (jobAt axes toolchain number).value? name = none := by
  rw [Job.value?, Table.get?_eq_none_iff, names_jobAt toolchain distinct]
  exact undeclared

theorem exists_job_of_choice (distinct : (axes.map Axis.name).Nodup) (expands : expand axes toolchain = .ok jobs)
    {value : Axis → String} (offered : ∀ axis ∈ axes, value axis ∈ axis.values) :
    ∃ job ∈ jobs, ∀ axis ∈ axes, job.value? axis.name = some (value axis) := by
  obtain ⟨checked, -, rfl⟩ := expand_eq_ok_iff.mp expands
  have hnodup : ∀ axis ∈ axes, axis.values.Nodup := fun axis ha => (values_of_checkAxes checked axis ha).2
  have hchoice : List.Forall₂ (fun axis v => v ∈ axis.values) axes (axes.map value) :=
    List.forall₂_map_right_iff.mpr (List.forall₂_same.mpr offered)
  obtain ⟨job, ⟨hj, hvalues⟩, -⟩ :=
    existsUnique_jobAt toolchain distinct (size_pos_of_checkAxes checked) hnodup hchoice
  rw [List.map_map, List.map_inj_left] at hvalues
  exact ⟨job, hj, hvalues⟩

theorem exists_isLike (distinct : (axes.map Axis.name).Nodup) (reordered : axes.Perm others)
    (expands : expand axes toolchain = .ok jobs) (others_expand : expand others toolchain = .ok twins) (hj : j ∈ jobs) :
    ∃ k ∈ twins, k.IsLike j := by
  have hdistinct := nodup_names_perm distinct reordered
  obtain ⟨checked, -, rfl⟩ := expand_eq_ok_iff.mp expands
  obtain ⟨n, -, rfl⟩ := List.mem_map.mp hj
  let value (axis : Axis) : String := ((jobAt axes toolchain n).value? axis.name).getD ""
  have hvalue : ∀ axis ∈ axes, (jobAt axes toolchain n).value? axis.name = some (value axis) ∧
      value axis ∈ axis.values := by
    intro axis ha
    obtain ⟨v, hv, hjob⟩ := exists_value?_jobAt toolchain distinct (size_pos_of_checkAxes checked) n axis ha
    have heq : value axis = v := by simp only [value, hjob, Option.getD_some]
    exact ⟨heq ▸ hjob, heq ▸ hv⟩
  -- The choice that the job makes is made by one of the twins, which have the same axes.
  obtain ⟨k, hk, hkv⟩ := exists_job_of_choice hdistinct others_expand fun axis ha =>
    (hvalue axis (reordered.mem_iff.mpr ha)).2
  obtain ⟨-, -, rfl⟩ := expand_eq_ok_iff.mp others_expand
  obtain ⟨m, -, rfl⟩ := List.mem_map.mp hk
  have hvalues : ∀ name, (jobAt others toolchain m).value? name = (jobAt axes toolchain n).value? name := by
    intro name
    by_cases hn : name ∈ others.map Axis.name
    · obtain ⟨axis, ha, rfl⟩ := List.mem_map.mp hn
      rw [hkv axis ha, (hvalue axis (reordered.mem_iff.mpr ha)).1]
    · have hn' : name ∉ axes.map Axis.name := fun hm => hn ((reordered.map Axis.name).mem_iff.mp hm)
      rw [value?_jobAt_eq_none hdistinct hn, value?_jobAt_eq_none distinct hn']
  exact ⟨_, hk, hvalues, toolchainOf_congr hvalues⟩

theorem exists_twins (distinct : (axes.map Axis.name).Nodup) (reordered : axes.Perm others)
    (expands : expand axes toolchain = .ok jobs) (others_expand : expand others toolchain = .ok twins) :
    ∃ twin : Job → Job, (jobs.map twin).Perm twins ∧ ∀ job ∈ jobs, (twin job).IsLike job := by
  have hdistinct := nodup_names_perm distinct reordered
  have hjobs : jobs.Nodup := nodup_of_expand expands
  have htwins : twins.Nodup := nodup_of_expand others_expand
  have hlike : ∀ job, ∃ k, job ∈ jobs → k ∈ twins ∧ k.IsLike job := by
    intro job
    by_cases hj : job ∈ jobs
    · obtain ⟨k, hk, alike⟩ := exists_isLike distinct reordered expands others_expand hj
      exact ⟨k, fun _ => ⟨hk, alike⟩⟩
    · exact ⟨job, fun h => absurd h hj⟩
  choose twin htwin using hlike
  refine ⟨twin, ?_, fun job hj => (htwin job hj).2⟩
  have hinj : ∀ j ∈ jobs, ∀ k ∈ jobs, twin j = twin k → j = k := by
    intro j hj k hk heq
    have hjk : (twin j).IsLike k := heq ▸ (htwin k hk).2
    exact eq_of_isLike distinct expands hj hk ((htwin j hj).2.symm.trans hjk)
  -- Neither list repeats a job, so it is enough that they have the same members.
  refine (List.perm_ext_iff_of_nodup (hjobs.map_on hinj) htwins).mpr fun k => ⟨fun hk => ?_, fun hk => ?_⟩
  · obtain ⟨job, hj, rfl⟩ := List.mem_map.mp hk
    exact (htwin job hj).1
  · obtain ⟨job, hj, alike⟩ := exists_isLike hdistinct reordered.symm others_expand expands hk
    obtain ⟨hm, hself⟩ := htwin job hj
    rw [← eq_of_isLike hdistinct others_expand hm hk (hself.trans alike)]
    exact List.mem_map_of_mem hj

end Reordering

namespace Workflow
variable {w : Workflow} {matrix : Table (List Yaml.Value)} {jobs : List Job}

theorem expansion_eq_ok_iff : w.expansion = .ok jobs ↔
    (∀ entry ∈ w.matrix.entries, scalarErrors entry = []) ∧ expand w.textAxes w.toolchain = .ok jobs := by
  rw [expansion, axes_eq, bind_eq_ok_iff]
  simp only [bind_unit_eq_ok_iff, firstOf_eq_ok_iff, List.flatMap_eq_nil_iff, pure, Except.pure, Except.ok.injEq]
  constructor
  · rintro ⟨axes, ⟨scalars, rfl⟩, expands⟩
    exact ⟨scalars, expands⟩
  · rintro ⟨scalars, expands⟩
    exact ⟨_, ⟨scalars, rfl⟩, expands⟩

theorem textAxes_perm (rearranged : matrix.entries.Perm w.matrix.entries) :
    w.textAxes.Perm ({ w with matrix := matrix } : Workflow).textAxes := by
  unfold textAxes
  exact rearranged.symm.map _

theorem isSound_of_perm (rearranged : matrix.entries.Perm w.matrix.entries) (sound : w.IsSound) :
    ({ w with matrix := matrix } : Workflow).IsSound := by
  have hget := Table.get?_of_perm rearranged
  have hnames := Table.mem_names_of_perm rearranged
  have hvalues : ∀ axis, ({ w with matrix := matrix } : Workflow).valuesOf axis = w.valuesOf axis := by
    intro axis
    rw [valuesOf, valuesOf, hget]
  constructor
  · exact fun hnil => sound.axes (List.eq_nil_iff_forall_not_mem.mpr fun name hn => by
      simpa [hnil] using (hnames name).mpr hn)
  · intro axis values hv
    exact sound.scalars axis values (hget axis ▸ hv)
  · intro axis values hv
    exact sound.values axis values (hget axis ▸ hv)
  · intro axis
    exact hvalues axis ▸ sound.distinctValues axis
  · intro t ht
    obtain ⟨haxis, hpinned⟩ := sound.toolchain t ht
    exact ⟨(hnames _).mpr haxis, hvalues t.axis ▸ hpinned⟩
  · exact sound.steps
  · exact sound.names
  · exact sound.distinctNames
  · intro step hs gate hg axis value hv
    obtain ⟨haxis, hvalue⟩ := sound.gates step hs gate hg axis value hv
    exact ⟨(hnames _).mpr haxis, hvalues axis ▸ hvalue⟩
  · intro step hs
    obtain ⟨template, ht, haxes⟩ := sound.commands step hs
    exact ⟨template, ht, fun axis ha => (hnames _).mpr (haxes axis ha)⟩

theorem check_of_perm (rearranged : matrix.entries.Perm w.matrix.entries) :
    w.check = .ok () ↔ ({ w with matrix := matrix } : Workflow).check = .ok () := by
  rw [check_eq_ok_iff_isSound, check_eq_ok_iff_isSound]
  exact ⟨isSound_of_perm rearranged, isSound_of_perm (w := { w with matrix := matrix }) rearranged.symm⟩

theorem exists_expansion_of_perm (rearranged : matrix.entries.Perm w.matrix.entries) :
    (∃ jobs, w.expansion = .ok jobs) ↔ ∃ jobs, ({ w with matrix := matrix } : Workflow).expansion = .ok jobs := by
  simp only [expansion_eq_ok_iff, exists_and_left, rearranged.mem_iff,
    exists_expand_perm w.nodup_names_textAxes (textAxes_perm rearranged)]

/-- Two declarations that differ in the order of their axes only are accepted together and expand together. Their
jobs then come in pairs with the same values and the same toolchain, and the jobs of a pair are rehearsed alike. -/
theorem rearranged_matrix_reorders_jobs (w : Workflow) (matrix : Table (List Yaml.Value))
    (rearranged : matrix.entries.Perm w.matrix.entries) :
    let v : Workflow := { w with matrix := matrix }
    (w.check = .ok () ↔ v.check = .ok ()) ∧
      ((∃ jobs, w.expansion = .ok jobs) ↔ ∃ jobs, v.expansion = .ok jobs) ∧
      ∀ jobs others, w.expansion = .ok jobs → v.expansion = .ok others →
        ∃ twin : Job → Job, (jobs.map twin).Perm others ∧
          (∀ job ∈ jobs, (∀ axis, (twin job).value? axis = job.value? axis) ∧
            (twin job).toolchain = job.toolchain) ∧
          ∀ settings b other, Build.ofWorkflow w settings = .ok b → Build.ofWorkflow v settings = .ok other →
            b.expand = .ok jobs ∧ other.expand = .ok others ∧
              ∀ job ∈ jobs, ∀ trigger, other.rehearse (twin job) trigger = b.rehearse job trigger := by
  refine ⟨check_of_perm rearranged, exists_expansion_of_perm rearranged, ?_⟩
  intro jobs others expands others_expand
  obtain ⟨-, hjobs⟩ := expansion_eq_ok_iff.mp expands
  obtain ⟨-, hothers⟩ := expansion_eq_ok_iff.mp others_expand
  obtain ⟨twin, paired, alike⟩ := exists_twins w.nodup_names_textAxes (textAxes_perm rearranged) hjobs hothers
  refine ⟨twin, paired, fun job hj => ⟨(alike job hj).values, (alike job hj).toolchain⟩, ?_⟩
  intro settings b other hb hother
  obtain ⟨checked, rfl⟩ := ofWorkflow_eq_ok_iff_check.mp hb
  obtain ⟨hchecked, rfl⟩ := ofWorkflow_eq_ok_iff_check.mp hother
  refine ⟨(expand_soundBuild checked settings).trans expands,
    (expand_soundBuild hchecked settings).trans others_expand, fun job hj trigger => ?_⟩
  -- The two builds have the same plan and the same settings, and a rehearsal looks at nothing else of a build.
  exact (alike job hj).rehearse_eq (w.soundBuild settings) trigger

theorem rearranged_backendWorkflow_reorders_jobs :
    ∃ matrix : Table (List Yaml.Value), matrix.names = ["toolchain", "backend"] ∧
      matrix.entries.Perm backendWorkflow.matrix.entries ∧
      ∃ jobs others b other, backendWorkflow.expansion = .ok jobs ∧
        ({ backendWorkflow with matrix := matrix } : Workflow).expansion = .ok others ∧ jobs.length = 4 ∧
        Build.ofWorkflow backendWorkflow (.initial "/work") = .ok b ∧
        Build.ofWorkflow { backendWorkflow with matrix := matrix } (.initial "/work") = .ok other ∧
        ∃ twin : Job → Job, (jobs.map twin).Perm others ∧
          (∀ job ∈ jobs, (∀ axis, (twin job).value? axis = job.value? axis) ∧
            ∀ trigger, other.rehearse (twin job) trigger = b.rehearse job trigger) ∧
          ∃ job ∈ jobs, other.rehearse (twin job) .push =
            [⟨"Build", some "cargo build --features openssl", none⟩,
              ⟨"Miri", none, some "requires toolchain='nightly', job has toolchain='stable'"⟩] := by
  have rearranged : (Table.ofList [("toolchain", [Yaml.Value.string "stable", .string "nightly"]),
      ("backend", [.string "openssl", .string "mbedtls"])]).entries.Perm backendWorkflow.matrix.entries :=
    List.Perm.swap _ _ []
  obtain ⟨hchecked, hboth, hpaired⟩ := rearranged_matrix_reorders_jobs backendWorkflow _ rearranged
  have expands := expansion_eq_ok_iff.mpr ⟨by decide, expand_eq_ok (checkAxes_of_check check_backendWorkflow)
    (show combinationCount backendWorkflow.textAxes ≤ jobLimit by decide)⟩
  obtain ⟨others, others_expand⟩ := hboth.mp ⟨_, expands⟩
  obtain ⟨twin, paired, alike, hbuilds⟩ := hpaired _ others expands others_expand
  have hb := ofWorkflow_of_check check_backendWorkflow (.initial "/work")
  have hother := ofWorkflow_of_check (hchecked.mp check_backendWorkflow) (.initial "/work")
  obtain ⟨-, -, rehearsed⟩ := hbuilds _ _ _ hb hother
  have hfirst : (backendWorkflow.soundBuild (.initial "/work")).rehearse
      (jobAt backendWorkflow.textAxes backendWorkflow.toolchain 0) .push =
        [⟨"Build", some "cargo build --features openssl", none⟩,
          ⟨"Miri", none, some "requires toolchain='nightly', job has toolchain='stable'"⟩] := by decide +kernel
  refine ⟨_, rfl, rearranged, _, others, _, _, expands, others_expand, rfl, hb, hother, twin, paired,
    fun job hj => ⟨(alike job hj).1, rehearsed job hj⟩, ?_⟩
  have hmem := List.mem_map_of_mem (f := jobAt backendWorkflow.textAxes backendWorkflow.toolchain)
    (List.mem_range.mpr (show 0 < combinationCount backendWorkflow.textAxes by decide))
  exact ⟨_, hmem, (rehearsed _ hmem .push).trans hfirst⟩

end Workflow
end JobMatrix
