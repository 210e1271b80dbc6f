import JobMatrix.Proofs.AxisOrder
import Mathlib.Algebra.BigOperators.Group.List.Lemmas

/-!
The count of the jobs and the order of the axes. The product is made from the first axis on and given up as soon as
it is beyond what can be addressed, so an axis without values, which makes the whole product vanish, counts only as
long as the axes in front of it are not too many already. The count is the exact product in every order of the axes
if and only if no axis is without values or those that have some are not too many.
-/
namespace JobMatrix
variable {axes others : List Axis}

def addressable (count : Nat) : Except DeclarationError Nat :=
  if count ≤ jobLimit then .ok count else .error .tooManyJobs

def filledAxes (axes : List Axis) : List Axis := axes.filter Axis.isFilled

theorem isFilled_of_mem_filledAxes {axis : Axis} (h : axis ∈ filledAxes axes) : axis.isFilled = true :=
  (List.mem_filter.mp h).2

theorem combinationCount_leadingAxes_le (axes : List Axis) :
    combinationCount (leadingAxes axes) ≤ combinationCount (filledAxes axes) := by
  have hfilled : filledAxes (leadingAxes axes) = leadingAxes axes :=
    List.filter_eq_self.mpr fun axis ha => List.mem_takeWhile_imp ha
  have hsub : (leadingAxes axes).Sublist (filledAxes axes) := by
    rw [← hfilled]
    exact (List.takeWhile_sublist _).filter _
  have hpos : 0 < combinationCount (filledAxes axes) :=
    combinationCount_pos fun _ ha => Axis.isFilled_iff.mp (isFilled_of_mem_filledAxes ha)
  exact Nat.le_of_dvd hpos (hsub.map Axis.size).prod_dvd_prod

theorem leadingAxes_filledAxes_append {empty : List Axis} (h : ∀ axis ∈ empty, axis.size = 0) :
    leadingAxes (filledAxes axes ++ empty) = filledAxes axes := by
  have hempty : leadingAxes empty = [] := by
    cases empty with
    | nil => rfl
    | cons axis rest => exact List.takeWhile_cons_of_neg (Axis.size_eq_zero_iff.mp (h axis List.mem_cons_self))
  have happend : leadingAxes (filledAxes axes ++ empty) = filledAxes axes ++ leadingAxes empty :=
    List.takeWhile_append_of_pos fun _ ha => isFilled_of_mem_filledAxes ha
  rw [happend, hempty, List.append_nil]

theorem exists_perm_leadingAxes (axes : List Axis) :
    ∃ others, axes.Perm others ∧ leadingAxes others = filledAxes axes := by
  refine ⟨_, (List.filter_append_perm Axis.isFilled axes).symm, ?_⟩
  refine leadingAxes_filledAxes_append fun axis ha => Axis.size_eq_zero_iff.mpr ?_
  simpa using (List.mem_filter.mp ha).2

/-- The count of the jobs is the product, unless the axes in front of the first one without values are too many. It is
the product, or the refusal if that is too much, in every order of the axes exactly if each of them has values or those
that have values are not too many. -/
theorem jobCount_eq_product_iff (axes : List Axis) :
    jobCount axes = (if combinationCount (leadingAxes axes) ≤ jobLimit then .ok (combinationCount axes)
      else .error .tooManyJobs) ∧
    ((∀ others, axes.Perm others → jobCount others = addressable (combinationCount axes)) ↔
      (∀ axis ∈ axes, 0 < axis.size) ∨ combinationCount (filledAxes axes) ≤ jobLimit) := by
  refine ⟨jobCount_eq axes, fun h => ?_, ?_⟩
  · by_contra hno
    obtain ⟨hzero, hl⟩ := not_or.mp hno
    obtain ⟨axis, ha, hzero⟩ : ∃ axis ∈ axes, axis.size = 0 := by simpa using hzero
    obtain ⟨others, hperm, hleading⟩ := exists_perm_leadingAxes axes
    have hcount := h others hperm
    rw [jobCount_eq, hleading, if_neg hl, combinationCount_eq_zero ha hzero] at hcount
    cases hcount
  · rintro (hall | hl) others hperm
    · have hothers : ∀ axis ∈ others, 0 < axis.size := fun axis ha => hall axis (hperm.mem_iff.mpr ha)
      rw [jobCount_eq, leadingAxes_eq_self hothers, combinationCount_perm hperm]
      rfl
    · have hfilled : combinationCount (filledAxes others) = combinationCount (filledAxes axes) :=
        combinationCount_perm (hperm.filter _).symm
      have hother : combinationCount (leadingAxes others) ≤ jobLimit :=
        (combinationCount_leadingAxes_le others).trans (hfilled ▸ hl)
      have hproduct := (combinationCount_le_leadingAxes others).trans hother
      rw [jobCount_eq, if_pos hother, combinationCount_perm hperm, addressable, if_pos hproduct]

def exhaustedAxes : List Axis :=
  (List.range 16).map (fun n => ⟨"axis" ++ toString n, (List.range 16).map toString⟩) ++ [⟨"os", []⟩]

theorem not_jobCount_eq_product :
    ¬ ∀ axes : List Axis, jobCount axes = addressable (combinationCount axes) := by
  intro h
  have hcount := h exhaustedAxes
  have hzero : combinationCount exhaustedAxes = 0 := by decide
  have hmany : jobCount exhaustedAxes = .error .tooManyJobs := by decide +kernel
  rw [hzero, hmany] at hcount
  cases hcount

end JobMatrix
