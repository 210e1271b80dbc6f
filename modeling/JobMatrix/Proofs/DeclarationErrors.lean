import JobMatrix.Proofs.Violations

/-!
The errors of a declaration, listed phase by phase, each phase in the order of the declaration. They are those
that are true of the declaration.
-/
namespace JobMatrix.Workflow
variable {w : Workflow} {step : Step} {e : DeclarationError}

def scalarErrors (entry : String × List Yaml.Value) : List DeclarationError :=
  if entry.2.all (·.scalarText?.isSome) then [] else [.nonScalarValue entry.1]

def axisErrors (entry : String × List Yaml.Value) : List DeclarationError :=
  (if entry.2.isEmpty then [.emptyAxis entry.1] else []) ++
    (repeated (textsOf entry.2)).map (.repeatedValue entry.1)

/-- A choice from an axis that is not declared, or of a value that the axis does not offer. -/
def choiceErrors (w : Workflow) (axis value : String) (noAxis noValue : DeclarationError) :
    List DeclarationError :=
  if axis ∉ w.matrix.names then [noAxis] else if value ∉ w.valuesOf axis then [noValue] else []

def toolchainErrors (w : Workflow) : List DeclarationError :=
  match w.toolchain with
  | none => []
  | some t =>
    w.choiceErrors t.axis t.pinned (.unknownToolchainAxis t.axis) (.unknownPinnedValue t.axis t.pinned)

def nameErrorsAt (names : List String) (i : Nat) (step : Step) : List DeclarationError :=
  (if Text.isBlankText step.name then [.unnamedStep i] else []) ++
    if step.name ∈ names.take i then [.repeatedStepName step.name] else []

def nameErrors (steps : List Step) : List DeclarationError :=
  steps.zipIdx.flatMap fun p => nameErrorsAt (steps.map (·.name)) p.2 p.1

def gateErrors (w : Workflow) (step : Step) : List DeclarationError :=
  match step.gate with
  | none => []
  | some gate => gate.values.entries.flatMap fun (axis, value) =>
    w.choiceErrors axis value (.unknownGateAxis step.name axis) (.unknownGateValue step.name axis value)

def commandErrors (step : Step) : List DeclarationError :=
  match Template.parse step.command with
  | .ok _ => []
  | .error e => [e.inStep step.name]

/-- The command of a step cut into segments; a command that cannot be cut has none. -/
def templateOf (step : Step) : Template :=
  match Template.parse step.command with
  | .ok template => template
  | .error _ => ⟨[]⟩

def placeholderErrors (w : Workflow) (step : Step) : List DeclarationError :=
  (templateOf step).placeholders.flatMap fun
    | .matrix axis =>
      if axis ∉ w.matrix.names then [.unknownPlaceholder step.name ("matrix." ++ axis)] else []
    | _ => []

def stepErrors (w : Workflow) : List DeclarationError :=
  w.steps.flatMap w.gateErrors ++ w.steps.flatMap commandErrors ++ w.steps.flatMap w.placeholderErrors

def outlineErrors (w : Workflow) : List DeclarationError :=
  w.matrix.entries.flatMap scalarErrors ++ (if w.matrix.names = [] then [.noAxes] else []) ++
    w.matrix.entries.flatMap axisErrors ++ w.toolchainErrors ++ (if w.steps = [] then [.noSteps] else []) ++
    nameErrors w.steps

def errors (w : Workflow) : List DeclarationError := w.outlineErrors ++ w.stepErrors

theorem mem_scalarErrors {entry : String × List Yaml.Value} :
    e ∈ scalarErrors entry ↔ (∃ v ∈ entry.2, v.scalarText? = none) ∧ e = .nonScalarValue entry.1 := by
  by_cases h : entry.2.all (·.scalarText?.isSome)
  · have hno : ¬ ∃ v ∈ entry.2, v.scalarText? = none := by
      rintro ⟨v, hv, hn⟩
      simpa [hn] using List.all_eq_true.mp h v hv
    simp [scalarErrors, h, hno]
  · have hex : ∃ v ∈ entry.2, v.scalarText? = none := by simpa using h
    simp [scalarErrors, h, hex]

theorem mem_axisErrors {entry : String × List Yaml.Value} :
    e ∈ axisErrors entry ↔ (entry.2 = [] ∧ e = .emptyAxis entry.1) ∨
      ∃ value, (textsOf entry.2).Duplicate value ∧ e = .repeatedValue entry.1 value := by
  simp only [axisErrors, List.mem_append, List.mem_ite_nil_right, List.isEmpty_iff, List.mem_singleton,
    List.mem_map, mem_repeated_iff, eq_comm (b := e)]

theorem mem_choiceErrors {axis value : String} {noAxis noValue : DeclarationError} :
    e ∈ w.choiceErrors axis value noAxis noValue ↔ (axis ∉ w.matrix.names ∧ e = noAxis) ∨
      (axis ∈ w.matrix.names ∧ value ∉ w.valuesOf axis ∧ e = noValue) := by
  by_cases ha : axis ∈ w.matrix.names
  · by_cases hv : value ∈ w.valuesOf axis <;> simp [choiceErrors, ha, hv]
  · simp [choiceErrors, ha]

theorem mem_nameErrors {steps : List Step} :
    e ∈ nameErrors steps ↔
      (∃ i step, steps[i]? = some step ∧ Text.isBlankText step.name = true ∧ e = .unnamedStep i) ∨
        ∃ name, (steps.map (·.name)).Duplicate name ∧ e = .repeatedStepName name := by
  simp only [nameErrors, nameErrorsAt, List.mem_flatMap, Prod.exists, List.mk_mem_zipIdx_iff_getElem?, List.mem_append,
    List.mem_ite_nil_right, List.mem_singleton, duplicate_iff_mem_take, List.getElem?_map]
  constructor
  · rintro ⟨step, i, hs, ⟨hb, rfl⟩ | ⟨hm, rfl⟩⟩
    · exact .inl ⟨i, step, hs, hb, rfl⟩
    · exact .inr ⟨step.name, ⟨i, by simp [hs], hm⟩, rfl⟩
  · rintro (⟨i, step, hs, hb, rfl⟩ | ⟨name, ⟨i, hname, hm⟩, rfl⟩)
    · exact ⟨step, i, hs, .inl ⟨hb, rfl⟩⟩
    · obtain ⟨step, hs, rfl⟩ := Option.map_eq_some_iff.mp hname
      exact ⟨step, i, hs, .inr ⟨hm, rfl⟩⟩

theorem mem_toolchainErrors : e ∈ w.toolchainErrors ↔ ∃ t, w.toolchain = some t ∧
    ((t.axis ∉ w.matrix.names ∧ e = .unknownToolchainAxis t.axis) ∨
      (t.axis ∈ w.matrix.names ∧ t.pinned ∉ w.valuesOf t.axis ∧ e = .unknownPinnedValue t.axis t.pinned)) := by
  cases ht : w.toolchain with
  | none => simp [toolchainErrors, ht]
  | some t => simp [toolchainErrors, ht, mem_choiceErrors]

theorem mem_gateErrors : e ∈ w.gateErrors step ↔ ∃ gate, step.gate = some gate ∧ ∃ axis value,
    gate.values.get? axis = some value ∧
      ((axis ∉ w.matrix.names ∧ e = .unknownGateAxis step.name axis) ∨
        (axis ∈ w.matrix.names ∧ value ∉ w.valuesOf axis ∧ e = .unknownGateValue step.name axis value)) := by
  cases hg : step.gate with
  | none => simp [gateErrors, hg]
  | some gate => simp [gateErrors, hg, mem_choiceErrors, Table.get?_eq_some_iff]

theorem mem_commandErrors : e ∈ commandErrors step ↔
    ∃ error, Template.parse step.command = .error error ∧ e = error.inStep step.name := by
  cases hp : Template.parse step.command <;> simp [commandErrors, hp]

theorem mem_placeholderErrors : e ∈ w.placeholderErrors step ↔ ∃ template axis,
    Template.parse step.command = .ok template ∧ .matrix axis ∈ template.placeholders ∧
      axis ∉ w.matrix.names ∧ e = .unknownPlaceholder step.name ("matrix." ++ axis) := by
  cases hp : Template.parse step.command with
  | error error => simp [placeholderErrors, templateOf, hp, Template.placeholders]
  | ok template =>
    simp only [placeholderErrors, templateOf, hp, List.mem_flatMap, Except.ok.injEq, exists_eq_left',
      exists_and_left]
    constructor
    · rintro ⟨p, hm, he⟩
      cases p with
      | matrix axis =>
        obtain ⟨hn, he⟩ := List.mem_ite_nil_right.mp he
        exact ⟨axis, hm, hn, List.mem_singleton.mp he⟩
      | _ => cases he
    · rintro ⟨axis, hm, hn, rfl⟩
      exact ⟨.matrix axis, hm, by simp [hn]⟩

theorem mem_stepErrors : e ∈ w.stepErrors ↔ ∃ step ∈ w.steps, w.StepViolates step e := by
  have hstep (step : Step) : w.StepViolates step e ↔
      e ∈ w.gateErrors step ∨ e ∈ commandErrors step ∨ e ∈ w.placeholderErrors step := by
    rw [mem_gateErrors, mem_commandErrors, mem_placeholderErrors]
    constructor
    · intro h
      cases e with
      | unknownGateAxis name axis =>
        obtain ⟨rfl, gate, hg, hm, hn⟩ := h
        obtain ⟨⟨axis, value⟩, he, rfl⟩ := List.mem_map.mp hm
        exact .inl ⟨gate, hg, axis, value, gate.values.get?_eq_some_iff.mpr he, .inl ⟨hn, rfl⟩⟩
      | unknownGateValue name axis value =>
        obtain ⟨rfl, gate, hg, hv, ha, hn⟩ := h
        exact .inl ⟨gate, hg, axis, value, hv, .inr ⟨ha, hn, rfl⟩⟩
      | unknownPlaceholder name text =>
        obtain ⟨rfl, hp | ⟨template, axis, hp, hm, hn, rfl⟩⟩ := h
        · exact .inr (.inl ⟨_, hp, rfl⟩)
        · exact .inr (.inr ⟨template, axis, hp, hm, hn, rfl⟩)
      | unterminatedPlaceholder name =>
        obtain ⟨rfl, hp⟩ := h
        exact .inr (.inl ⟨_, hp, rfl⟩)
      | _ => exact h.elim
    · rintro (⟨gate, hg, axis, value, hv, ⟨hn, rfl⟩ | ⟨ha, hn, rfl⟩⟩ | ⟨error, hp, rfl⟩ |
        ⟨template, axis, hp, hm, hn, rfl⟩)
      · exact ⟨rfl, gate, hg, List.mem_map.mpr ⟨_, gate.values.get?_eq_some_iff.mp hv, rfl⟩, hn⟩
      · exact ⟨rfl, gate, hg, hv, ha, hn⟩
      · cases error with
        | unknown text => exact ⟨rfl, .inl hp⟩
        | unterminated => exact ⟨rfl, hp⟩
      · exact ⟨rfl, .inr ⟨template, axis, hp, hm, hn, rfl⟩⟩
  simp only [stepErrors, List.mem_append, List.mem_flatMap, hstep, and_or_left, exists_or, or_assoc]

theorem mem_outlineErrors : e ∈ w.outlineErrors ↔ e.isOfStep = false ∧ w.Violates e := by
  have hscalar : e ∈ w.matrix.entries.flatMap scalarErrors ↔ ∃ axis values,
      w.matrix.get? axis = some values ∧ (∃ v ∈ values, v.scalarText? = none) ∧
        e = .nonScalarValue axis := by
    simp only [List.mem_flatMap, Prod.exists, mem_scalarErrors, Table.get?_eq_some_iff]
  have haxis : e ∈ w.matrix.entries.flatMap axisErrors ↔ ∃ axis values,
      w.matrix.get? axis = some values ∧ ((values = [] ∧ e = .emptyAxis axis) ∨
        ∃ value, (textsOf values).Duplicate value ∧ e = .repeatedValue axis value) := by
    simp only [List.mem_flatMap, Prod.exists, mem_axisErrors, Table.get?_eq_some_iff]
  simp only [outlineErrors, List.mem_append, hscalar, haxis, mem_toolchainErrors, mem_nameErrors,
    List.mem_ite_nil_right, List.mem_singleton]
  cases e with
  | repeatedValue => simp [Violates, DeclarationError.isOfStep, duplicate_valuesOf_iff]
  | _ => simp [Violates, DeclarationError.isOfStep]

theorem mem_errors : e ∈ w.errors ↔ w.Violates e := by
  rw [errors, List.mem_append, mem_outlineErrors, mem_stepErrors]
  cases e <;> simp [DeclarationError.isOfStep, Violates, StepViolates]

end JobMatrix.Workflow
