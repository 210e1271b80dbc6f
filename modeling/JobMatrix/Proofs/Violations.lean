import JobMatrix.Proofs.AxisCheck
import JobMatrix.Proofs.TableEntries
import JobMatrix.Workflow.Check

/-!
What is wrong with a declaration: what each error says of it, and the list of all errors in the order in which
a check would come to them. A declaration is sound if the list is empty.
-/
namespace JobMatrix

def DeclarationError.isOfStep : DeclarationError → Bool
  | unknownGateAxis .. | unknownGateValue .. | unknownPlaceholder .. | unterminatedPlaceholder .. => true
  | _ => false

namespace Workflow
variable {w : Workflow} {step : Step} {e : DeclarationError}

def textsOf (values : List Yaml.Value) : List String := values.filterMap Yaml.Value.scalarText?

def valuesOf (w : Workflow) (axis : String) : List String := textsOf ((w.matrix.get? axis).getD [])

theorem duplicate_valuesOf_iff {axis value : String} : (w.valuesOf axis).Duplicate value ↔
    ∃ values, w.matrix.get? axis = some values ∧ (textsOf values).Duplicate value := by
  cases hg : w.matrix.get? axis with
  | none => simp [valuesOf, hg, textsOf, List.not_duplicate_nil]
  | some values => simp [valuesOf, hg]

def StepViolates (w : Workflow) (step : Step) : DeclarationError → Prop
  | .unknownGateAxis name axis =>
    name = step.name ∧ ∃ gate, step.gate = some gate ∧ axis ∈ gate.values.names ∧ axis ∉ w.matrix.names
  | .unknownGateValue name axis value =>
    name = step.name ∧ ∃ gate, step.gate = some gate ∧ gate.values.get? axis = some value ∧
      axis ∈ w.matrix.names ∧ value ∉ w.valuesOf axis
  | .unknownPlaceholder name text =>
    name = step.name ∧
      (Template.parse step.command = .error (.unknown text) ∨
        ∃ template axis, Template.parse step.command = .ok template ∧
          .matrix axis ∈ template.placeholders ∧ axis ∉ w.matrix.names ∧ text = "matrix." ++ axis)
  | .unterminatedPlaceholder name =>
    name = step.name ∧ Template.parse step.command = .error .unterminated
  | _ => False

theorem StepViolates.step?_eq (h : w.StepViolates step e) : e.step? = some step.name := by
  cases e with
  | unknownGateAxis | unknownGateValue | unknownPlaceholder | unterminatedPlaceholder =>
    exact congrArg some h.1
  | _ => exact h.elim

/-- What an error says of a declaration. -/
def Violates (w : Workflow) : DeclarationError → Prop
  | .noAxes => w.matrix.names = []
  | .emptyAxis axis => w.matrix.get? axis = some []
  | .nonScalarValue axis => ∃ values, w.matrix.get? axis = some values ∧ ∃ v ∈ values, v.scalarText? = none
  | .repeatedValue axis value => (w.valuesOf axis).Duplicate value
  | .tooManyJobs => False
  | .noSteps => w.steps = []
  | .unnamedStep index => ∃ step, w.steps[index]? = some step ∧ Text.isBlankText step.name = true
  | .repeatedStepName name => (w.steps.map (·.name)).Duplicate name
  | .unknownToolchainAxis axis => ∃ t, w.toolchain = some t ∧ t.axis ∉ w.matrix.names ∧ axis = t.axis
  | .unknownPinnedValue axis value =>
    ∃ t, w.toolchain = some t ∧ t.axis ∈ w.matrix.names ∧ t.pinned ∉ w.valuesOf t.axis ∧
      axis = t.axis ∧ value = t.pinned
  | e@(.unknownGateAxis ..) | e@(.unknownGateValue ..) | e@(.unknownPlaceholder ..)
  | e@(.unterminatedPlaceholder ..) => ∃ step ∈ w.steps, w.StepViolates step e

/-- A declaration of which jobs can be made. -/
structure IsSound (w : Workflow) : Prop where
  axes : w.matrix.names ≠ []
  scalars : ∀ axis values, w.matrix.get? axis = some values → ∀ v ∈ values, v.scalarText? ≠ none
  values : ∀ axis values, w.matrix.get? axis = some values → values ≠ []
  distinctValues : ∀ axis, (w.valuesOf axis).Nodup
  toolchain : ∀ t, w.toolchain = some t → t.axis ∈ w.matrix.names ∧ t.pinned ∈ w.valuesOf t.axis
  steps : w.steps ≠ []
  names : ∀ step ∈ w.steps, Text.isBlankText step.name = false
  distinctNames : (w.steps.map (·.name)).Nodup
  gates : ∀ step ∈ w.steps, ∀ gate, step.gate = some gate → ∀ axis value,
    gate.values.get? axis = some value → axis ∈ w.matrix.names ∧ value ∈ w.valuesOf axis
  commands : ∀ step ∈ w.steps, ∃ template, Template.parse step.command = .ok template ∧
    ∀ axis, .matrix axis ∈ template.placeholders → axis ∈ w.matrix.names

theorem IsSound.not_violates (h : w.IsSound) : ¬ w.Violates e := by
  intro hv
  cases e with
  | noAxes => exact h.axes hv
  | emptyAxis axis => exact h.values axis [] hv rfl
  | nonScalarValue axis =>
    obtain ⟨values, hg, v, hm, hn⟩ := hv
    exact h.scalars axis values hg v hm hn
  | repeatedValue axis value => exact List.nodup_iff_forall_not_duplicate.mp (h.distinctValues axis) value hv
  | tooManyJobs => exact hv
  | noSteps => exact h.steps hv
  | unnamedStep index =>
    obtain ⟨step, hs, hb⟩ := hv
    rw [h.names step (List.mem_of_getElem? hs)] at hb
    cases hb
  | repeatedStepName name => exact List.nodup_iff_forall_not_duplicate.mp h.distinctNames name hv
  | unknownToolchainAxis axis =>
    obtain ⟨t, ht, hn, -⟩ := hv
    exact hn (h.toolchain t ht).1
  | unknownPinnedValue axis value =>
    obtain ⟨t, ht, -, hn, -⟩ := hv
    exact hn (h.toolchain t ht).2
  | unknownGateAxis name axis =>
    obtain ⟨step, hs, -, gate, hg, hm, hn⟩ := hv
    obtain ⟨⟨axis, value⟩, he, rfl⟩ := List.mem_map.mp hm
    exact hn (h.gates step hs gate hg axis value (gate.values.get?_eq_some_iff.mpr he)).1
  | unknownGateValue name axis value =>
    obtain ⟨step, hs, -, gate, hg, hv, -, hn⟩ := hv
    exact hn (h.gates step hs gate hg axis value hv).2
  | unknownPlaceholder name text =>
    obtain ⟨step, hs, -, hp⟩ := hv
    obtain ⟨template, ht, ha⟩ := h.commands step hs
    rcases hp with hp | ⟨template', axis, ht', hm, hn, -⟩
    · rw [ht] at hp
      cases hp
    · rw [ht] at ht'
      cases ht'
      exact hn (ha axis hm)
  | unterminatedPlaceholder name =>
    obtain ⟨step, hs, -, hp⟩ := hv
    obtain ⟨template, ht, -⟩ := h.commands step hs
    rw [ht] at hp
    cases hp

theorem isSound_of_not_violates (h : ∀ e, ¬ w.Violates e) : w.IsSound where
  axes := h .noAxes
  scalars axis values hg v hm hn := h (.nonScalarValue axis) ⟨values, hg, v, hm, hn⟩
  values := by
    rintro axis values hg rfl
    exact h (.emptyAxis axis) hg
  distinctValues axis := List.nodup_iff_forall_not_duplicate.mpr fun value => h (.repeatedValue axis value)
  toolchain := by
    intro t ht
    have ha : t.axis ∈ w.matrix.names := by
      by_contra hn
      exact h (.unknownToolchainAxis t.axis) ⟨t, ht, hn, rfl⟩
    refine ⟨ha, ?_⟩
    by_contra hn
    exact h (.unknownPinnedValue t.axis t.pinned) ⟨t, ht, ha, hn, rfl, rfl⟩
  steps := h .noSteps
  names := by
    intro step hs
    obtain ⟨i, hi⟩ := List.getElem?_of_mem hs
    by_contra hb
    exact h (.unnamedStep i) ⟨step, hi, by simpa using hb⟩
  distinctNames := List.nodup_iff_forall_not_duplicate.mpr fun name => h (.repeatedStepName name)
  gates := by
    intro step hs gate hg axis value hv
    have hm : axis ∈ gate.values.names := List.mem_map.mpr ⟨_, gate.values.get?_eq_some_iff.mp hv, rfl⟩
    have ha : axis ∈ w.matrix.names := by
      by_contra hn
      exact h (.unknownGateAxis step.name axis) ⟨step, hs, rfl, gate, hg, hm, hn⟩
    refine ⟨ha, ?_⟩
    by_contra hn
    exact h (.unknownGateValue step.name axis value) ⟨step, hs, rfl, gate, hg, hv, ha, hn⟩
  commands := by
    intro step hs
    cases hp : Template.parse step.command with
    | error e =>
      cases e with
      | unknown text => exact absurd ⟨step, hs, rfl, .inl hp⟩ (h (.unknownPlaceholder step.name text))
      | unterminated => exact absurd ⟨step, hs, rfl, hp⟩ (h (.unterminatedPlaceholder step.name))
    | ok template =>
      refine ⟨template, rfl, fun axis hm => ?_⟩
      by_contra hn
      exact h (.unknownPlaceholder step.name ("matrix." ++ axis))
        ⟨step, hs, rfl, .inr ⟨template, axis, hp, hm, hn, rfl⟩⟩

end Workflow
end JobMatrix
