import JobMatrix.Proofs.PinnedToolchain

/-!
The conditions of a gate in a row: the toolchain, the values as declared, and the event. The step applies if all of
them are met, so their order does not matter and one more of them excludes no fewer jobs. The order shows in the
reason to skip the step alone: that is the first condition in the row that is not met.
-/
namespace JobMatrix
variable {job : Job} {trigger : Trigger}

inductive Condition
  | toolchain (required : Toolchain)
  | value (axis required : String)
  | trigger (allowed : List Trigger)
  deriving DecidableEq

namespace Condition

def Met (job : Job) (trigger : Trigger) : Condition → Prop
  | toolchain required => job.toolchain = required
  | value axis required => job.value? axis = some required
  | .trigger allowed => trigger ∈ allowed

instance (job : Job) (trigger : Trigger) (c : Condition) : Decidable (c.Met job trigger) :=
  match c with
  | toolchain required => inferInstanceAs (Decidable (job.toolchain = required))
  | value axis required => inferInstanceAs (Decidable (job.value? axis = some required))
  | .trigger allowed => inferInstanceAs (Decidable (trigger ∈ allowed))

def complaint (job : Job) (trigger : Trigger) : Condition → SkipReason
  | toolchain required => .toolchain required job.toolchain
  | value axis required =>
    match job.value? axis with
    | some actual => .value axis required actual
    | none => .noValue axis required
  | .trigger allowed => .trigger allowed trigger

def demand : Condition → String
  | toolchain required => "requires " ++ required.name ++ " toolchain"
  | value axis required => s!"requires {axis}='{required}'"
  | .trigger allowed => "runs on [" ++ Text.joinWith ", " (allowed.map Trigger.name) ++ "]"

def finding (job : Job) (trigger : Trigger) : Condition → String
  | toolchain _ => "job uses " ++ job.toolchain.name
  | value axis _ =>
    match job.value? axis with
    | some actual => s!"job has {axis}='{actual}'"
    | none => "job has no " ++ axis
  | .trigger _ => "triggered by " ++ trigger.name

/-- The words between two parts of a message, divided between them at a comma. -/
theorem split_wording {wording before after : String} (h : wording = before ++ (", " ++ after)) (front rest : String) :
    front ++ wording ++ rest = front ++ before ++ ", " ++ (after ++ rest) := by
  rw [h]
  simp only [String.append_assoc]

theorem message_complaint (c : Condition) (job : Job) (trigger : Trigger) :
    (c.complaint job trigger).message = c.demand ++ ", " ++ c.finding job trigger := by
  cases c with
  | toolchain required =>
    have hwording : " toolchain, job uses " = " toolchain" ++ (", " ++ "job uses ") := by decide +kernel
    exact split_wording hwording ("requires " ++ required.name) job.toolchain.name
  | value axis required =>
    cases hv : job.value? axis with
    | none =>
      have hwording : "', job has no " = "'" ++ (", " ++ "job has no ") := by decide +kernel
      rw [complaint, finding, hv]
      exact split_wording hwording ("requires " ++ axis ++ "='" ++ required) axis
    | some actual =>
      have hwording : "', job has " = "'" ++ (", " ++ "job has ") := by decide +kernel
      have hrest (text : String) : text ++ axis ++ "='" ++ actual ++ "'" = text ++ (axis ++ "='" ++ actual ++ "'") := by
        simp only [String.append_assoc]
      rw [complaint, finding, hv]
      refine (hrest _).trans ((split_wording hwording ("requires " ++ axis ++ "='" ++ required) _).trans ?_)
      exact congrArg (_ ++ ·) (hrest "job has ").symm
  | trigger allowed =>
    have hwording : "], triggered by " = "]" ++ (", " ++ "triggered by ") := by decide +kernel
    exact split_wording hwording ("runs on [" ++ Text.joinWith ", " (allowed.map Trigger.name)) trigger.name

def firstComplaint? (job : Job) (trigger : Trigger) (conditions : List Condition) : Option SkipReason :=
  (conditions.find? fun c => ¬ c.Met job trigger).map (·.complaint job trigger)

theorem firstComplaint?_append (first second : List Condition) :
    firstComplaint? job trigger (first ++ second) =
      (firstComplaint? job trigger first).or (firstComplaint? job trigger second) := by
  rw [firstComplaint?, List.find?_append, Option.map_or]
  rfl

theorem firstComplaint?_cons (c : Condition) (rest : List Condition) :
    firstComplaint? job trigger (c :: rest) =
      if c.Met job trigger then firstComplaint? job trigger rest else some (c.complaint job trigger) := by
  by_cases hc : c.Met job trigger <;> simp [firstComplaint?, hc]

theorem firstComplaint?_eq_some_iff {conditions : List Condition} {reason : SkipReason} :
    firstComplaint? job trigger conditions = some reason ↔
      ∃ before c after, conditions = before ++ c :: after ∧ (∀ d ∈ before, d.Met job trigger) ∧
        ¬ c.Met job trigger ∧ c.complaint job trigger = reason := by
  simp only [firstComplaint?, Option.map_eq_some_iff, List.find?_eq_some_iff_append, decide_eq_true_eq]
  constructor
  · rintro ⟨c, ⟨hc, before, after, hs, hb⟩, hr⟩
    exact ⟨before, c, after, hs, by simpa using hb, hc, hr⟩
  · rintro ⟨before, c, after, hs, hb, hc, hr⟩
    exact ⟨c, ⟨hc, before, after, hs, by simpa using hb⟩, hr⟩

end Condition

namespace Gate
open Condition

def conditions (gate : Gate) : List Condition :=
  gate.toolchain.toList.map .toolchain ++
    (gate.values.entries.map (fun (axis, required) => .value axis required) ++
      if gate.triggers = [] then [] else [.trigger gate.triggers])

theorem toolchainReason?_eq (required : Option Toolchain) (job : Job) (trigger : Trigger) :
    toolchainReason? required job = firstComplaint? job trigger (required.toList.map .toolchain) := by
  cases required with
  | none => rfl
  | some t =>
    rw [Option.toList_some, List.map_singleton, firstComplaint?_cons]
    rfl

theorem valueReason?_eq (conditions : List (String × String)) (job : Job) (trigger : Trigger) :
    valueReason? job conditions =
      firstComplaint? job trigger (conditions.map fun (axis, required) => .value axis required) := by
  induction conditions with
  | nil => rfl
  | cons condition rest ih =>
    obtain ⟨axis, required⟩ := condition
    rw [List.map_cons, firstComplaint?_cons, ← ih]
    cases hv : job.value? axis with
    | none => simp [valueReason?, hv, Met, complaint]
    | some actual => by_cases ha : actual = required <;> simp [valueReason?, hv, ha, Met, complaint]

theorem triggerReason?_eq (allowed : List Trigger) (job : Job) (trigger : Trigger) :
    triggerReason? allowed trigger =
      firstComplaint? job trigger (if allowed = [] then [] else [.trigger allowed]) := by
  by_cases hnone : allowed = []
  · rw [triggerReason?, if_pos (.inl hnone), if_pos hnone]
    rfl
  · rw [if_neg hnone, firstComplaint?_cons, triggerReason?]
    simp only [hnone, false_or]
    rfl

theorem reason?_eq (gate : Gate) (job : Job) (trigger : Trigger) :
    gate.reason? job trigger = firstComplaint? job trigger gate.conditions := by
  rw [conditions, firstComplaint?_append, firstComplaint?_append, ← toolchainReason?_eq, ← valueReason?_eq,
    ← triggerReason?_eq]
  rfl

/-- A gate is the conjunction of its conditions: the toolchain, if one is required, is the job's, every required value
is the job's value of its axis, and the event is a listed one if any is listed. So the order of the values and of the
events does not matter, and one more condition never lets a skipped step run. The reason to skip the step is about the
first condition that is not met, and its message says what was required and what was there. -/
theorem applies_as_conjunction (gate : Gate) (job : Job) (trigger : Trigger) :
    (applies (some gate) job trigger = true ↔
      (∀ t, gate.toolchain = some t → job.toolchain = t) ∧
      (∀ axis required, gate.values.get? axis = some required → job.value? axis = some required) ∧
      (gate.triggers = [] ∨ trigger ∈ gate.triggers)) ∧
    (∀ other : Gate, other.toolchain = gate.toolchain → other.values.entries.Perm gate.values.entries →
      other.triggers.Perm gate.triggers → applies (some other) job trigger = applies (some gate) job trigger) ∧
    (∀ axis value, axis ∉ gate.values.names → applies (some (gate.onValue axis value)) job trigger = true →
      applies (some gate) job trigger = true) ∧
    (∀ t, gate.toolchain = none → applies (some (gate.onToolchain t)) job trigger = true →
      applies (some gate) job trigger = true) ∧
    ∀ reason, skipReason? (some gate) job trigger = some reason ↔
      ∃ before c after, gate.conditions = before ++ c :: after ∧ (∀ d ∈ before, d.Met job trigger) ∧
        ¬ c.Met job trigger ∧ c.complaint job trigger = reason ∧
        reason.message = c.demand ++ ", " ++ c.finding job trigger := by
  refine ⟨?_, ?_, ?_, ?_, ?_⟩
  · have hvalues : job.Meets gate.values.entries ↔
        ∀ axis required, gate.values.get? axis = some required → job.value? axis = some required := by
      simp only [Job.Meets, Prod.forall, Table.get?_eq_some_iff]
    rw [applies_iff, hvalues]
  · intro other htoolchain hvalues htriggers
    have hmeets : job.Meets other.values.entries ↔ job.Meets gate.values.entries :=
      forall_congr' fun _ => imp_congr_left hvalues.mem_iff
    have hnone : other.triggers = [] ↔ gate.triggers = [] := by
      rw [← List.length_eq_zero_iff, htriggers.length_eq, List.length_eq_zero_iff]
    rw [Bool.eq_iff_iff, applies_iff, applies_iff, htoolchain, hmeets, hnone, htriggers.mem_iff]
  · intro axis value absent happlies
    exact ((applies_onValue_iff absent value).mp happlies).2
  · intro t anyToolchain happlies
    exact ((applies_onToolchain_iff anyToolchain t).mp happlies).2
  · intro reason
    have hreason : skipReason? (some gate) job trigger = firstComplaint? job trigger gate.conditions :=
      reason?_eq gate job trigger
    rw [hreason, firstComplaint?_eq_some_iff]
    constructor
    · rintro ⟨before, c, after, hsplit, hbefore, hc, rfl⟩
      exact ⟨before, c, after, hsplit, hbefore, hc, rfl, c.message_complaint job trigger⟩
    · rintro ⟨before, c, after, hsplit, hbefore, hc, hr, -⟩
      exact ⟨before, c, after, hsplit, hbefore, hc, hr⟩

theorem skip_without_os :
    let job : Job := ⟨0, .ofList [("mode", "fast")], .pinned⟩
    let gate : Gate := ⟨some .pinned, .ofList [("mode", "fast"), ("os", "linux")], [.push, .manual]⟩
    applies (some gate) job .push = false ∧
      applies (some ⟨some .pinned, .ofList [("os", "linux"), ("mode", "fast")], [.manual, .push]⟩) job .push = false ∧
      ∃ c ∈ gate.conditions, ¬ c.Met job .push ∧ c.complaint job .push = .noValue "os" "linux" ∧
        c.demand ++ ", " ++ c.finding job .push = "requires os='linux', job has no os" := by
  intro job gate
  obtain ⟨happlies, horder, -, -, hreason⟩ := gate.applies_as_conjunction job .push
  have hskip : applies (some gate) job .push = false := by
    rw [← Bool.not_eq_true, happlies]
    rintro ⟨-, hvalues, -⟩
    cases hvalues "os" "linux" rfl
  obtain ⟨before, c, after, hsplit, -, hc, hcomplaint, hmessage⟩ := (hreason (.noValue "os" "linux")).mp (by decide)
  have hmem : c ∈ gate.conditions := hsplit ▸ List.mem_append_right _ List.mem_cons_self
  refine ⟨hskip, ?_, c, hmem, hc, hcomplaint, hmessage.symm⟩
  exact (horder ⟨some .pinned, .ofList [("os", "linux"), ("mode", "fast")], [.manual, .push]⟩ rfl (.swap _ _ _)
    (.swap _ _ _)).trans hskip

end Gate
end JobMatrix
