import JobMatrix.Cli.Perform
import JobMatrix.Proofs.FirstOccurrence
import JobMatrix.Proofs.StepEnvironment

/-!
Variables on their way from the command line to the process of a step. A later layer is laid over an earlier one: the
variables of the declaration, those of the command line one after the other, those of the step, and the token.
-/
namespace JobMatrix

/-- A text sets a variable to a value: it is the two around the first equals sign. -/
structure IsAssignment (text : String) (assigned : String × String) : Prop where
  written : text = assigned.1 ++ "=" ++ assigned.2
  first : '=' ∉ assigned.1.toList

namespace Cli
variable {text : String} {texts : List String} {assigned : List (String × String)} {e : String × String}
  {settings : Settings}

theorem assignment?_eq_some_iff : assignment? text = some e ↔ IsAssignment text e := by
  have hmark : ∀ chars : List Char, ['='] <:+: chars ++ ['='].dropLast ↔ '=' ∈ chars := by
    intro chars
    rw [List.dropLast_singleton, List.append_nil, List.singleton_infix_iff]
  constructor
  · intro h
    obtain ⟨⟨name, value⟩, hcut, rfl⟩ := Option.map_eq_some_iff.mp h
    have hfirst := Text.not_infix_of_cut? (List.cons_ne_nil _ _) hcut
    rw [hmark] at hfirst
    refine ⟨String.toList_injective ?_, by simpa using hfirst⟩
    simpa using Text.cut?_eq_append hcut
  · rintro ⟨rfl, hfirst⟩
    have hcut := Text.cut?_append (List.cons_ne_nil '=' []) ((hmark e.1.toList).not.mpr hfirst) e.2.toList
    have hlist : (e.1 ++ "=" ++ e.2).toList = e.1.toList ++ ['='] ++ e.2.toList := by simp
    rw [assignment?, hlist, hcut]
    simp

theorem assignment?_eq_none_iff : assignment? text = none ↔ '=' ∉ text.toList := by
  rw [assignment?, Option.map_eq_none_iff, Text.cut?_eq_none_iff (List.cons_ne_nil _ _), List.singleton_infix_iff]

theorem withAssignments_of_forall₂ (h : List.Forall₂ IsAssignment texts assigned) (settings : Settings) :
    withAssignments settings texts =
      .ok { settings with env := assigned.foldl (fun t e => t.insert e.1 e.2) settings.env } := by
  induction h generalizing settings with
  | nil => rfl
  | cons hfirst later ih =>
    rw [withAssignments, assignment?_eq_some_iff.mpr hfirst]
    exact ih _

theorem withAssignments_eq_error (h : ∃ text ∈ texts, '=' ∉ text.toList) (settings : Settings) :
    ∃ e, withAssignments settings texts = .error e := by
  induction texts generalizing settings with
  | nil => simp at h
  | cons text rest ih =>
    rw [withAssignments]
    cases ha : assignment? text with
    | none => exact ⟨_, rfl⟩
    | some e =>
      have hrest : ∃ text ∈ rest, '=' ∉ text.toList := by
        obtain ⟨other, hm, hno⟩ := h
        rcases List.mem_cons.mp hm with rfl | hm
        · rw [assignment?_eq_none_iff.mpr hno] at ha
          cases ha
        · exact ⟨other, hm, hno⟩
      exact ih hrest _

theorem exists_assigned (h : ∀ text ∈ texts, '=' ∈ text.toList) :
    ∃ assigned, List.Forall₂ IsAssignment texts assigned := by
  induction texts with
  | nil => exact ⟨[], .nil⟩
  | cons text rest ih =>
    rw [List.forall_mem_cons] at h
    obtain ⟨assigned, hassigned⟩ := ih h.2
    cases ha : assignment? text with
    | none => exact absurd h.1 (assignment?_eq_none_iff.mp ha)
    | some e => exact ⟨e :: assigned, .cons (assignment?_eq_some_iff.mp ha) hassigned⟩

variable {σ : Type} {s : Surroundings σ} {i : Invoked} {w : Workflow}

theorem settingsFor_of_unplaced {problem : String} (unplaced : directoryFor s i = .error problem) :
    settingsFor s i w = .error problem := by
  rw [settingsFor, unplaced]
  rfl

theorem settingsFor_eq_error_iff {directory : String} (placed : directoryFor s i = .ok directory) :
    (∃ e, settingsFor s i w = .error e) ↔ ∃ text ∈ i.values .env, '=' ∉ text.toList := by
  simp only [settingsFor, placed, bind, Except.bind]
  constructor
  · rintro ⟨e, he⟩
    by_contra hall
    simp only [not_exists, not_and, not_not] at hall
    obtain ⟨assigned, hassigned⟩ := exists_assigned hall
    rw [withAssignments_of_forall₂ hassigned] at he
    cases he
  · intro hno
    obtain ⟨e, he⟩ := withAssignments_eq_error hno (Settings.ofWorkflow w directory)
    exact ⟨e, by rw [he]⟩

end Cli

namespace Cli

end Cli
end JobMatrix
