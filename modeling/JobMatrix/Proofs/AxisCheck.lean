import JobMatrix.Expansion
import JobMatrix.Proofs.FirstError
import Mathlib.Data.List.Duplicate
import Mathlib.Data.List.NodupEquivFin

/-!
The check of the axes, axis after axis: an axis without values is refused, and so is the first value that is met
a second time. Axes that pass have values, all different.
-/
namespace JobMatrix

/-- The values that stand at an earlier place too, in the order of their later places. -/
def repeated (values : List String) : List String :=
  values.zipIdx.filterMap fun (v, i) => if v ∈ values.take i then some v else none

theorem duplicate_iff_mem_take {α : Type} {a : α} {l : List α} :
    l.Duplicate a ↔ ∃ i, l[i]? = some a ∧ a ∈ l.take i := by
  rw [List.duplicate_iff_exists_distinct_get]
  constructor
  · rintro ⟨j, i, hlt, hj, hi⟩
    refine ⟨i, by rw [hi]; simp, List.mem_take_iff_getElem.mpr ⟨j, ?_, hj.symm⟩⟩
    have hl : (j : Nat) < i := hlt
    omega
  · rintro ⟨i, hi, hm⟩
    obtain ⟨hlt, hv⟩ := List.getElem?_eq_some_iff.mp hi
    obtain ⟨j, hj, hw⟩ := List.mem_take_iff_getElem.mp hm
    exact ⟨⟨j, by omega⟩, ⟨i, hlt⟩, by simp only [Fin.mk_lt_mk]; omega, hw.symm, hv.symm⟩

theorem mem_repeated_iff {v : String} {values : List String} :
    v ∈ repeated values ↔ values.Duplicate v := by
  rw [duplicate_iff_mem_take]
  simp only [repeated, List.mem_filterMap, Prod.exists, List.mk_mem_zipIdx_iff_getElem?,
    Option.ite_none_right_eq_some, Option.some.injEq]
  constructor
  · rintro ⟨w, i, hw, hm, rfl⟩
    exact ⟨i, hw, hm⟩
  · rintro ⟨i, hw, hm⟩
    exact ⟨v, i, hw, hm, rfl⟩

theorem repeated_eq_nil_iff {values : List String} : repeated values = [] ↔ values.Nodup := by
  simp only [List.eq_nil_iff_forall_not_mem, List.nodup_iff_forall_not_duplicate, mem_repeated_iff]

/-- The scan finds the first repeated value; the values seen so far are those before it. -/
theorem firstRepeated_append (before rest seen : List String) (h : ∀ v, v ∈ seen ↔ v ∈ before) :
    firstRepeated seen rest = ((rest.zipIdx before.length).filterMap fun (v, i) =>
      if v ∈ (before ++ rest).take i then some v else none).head? := by
  induction rest generalizing before seen with
  | nil => rfl
  | cons v rest ih =>
    have htake : (before ++ v :: rest).take before.length = before := by simp
    by_cases hv : v ∈ seen
    · have hb : v ∈ before := (h v).mp hv
      simp [firstRepeated, hv, List.zipIdx_cons, hb]
    · have hb : v ∉ before := fun hm => hv ((h v).mpr hm)
      have hnext : ∀ w, w ∈ v :: seen ↔ w ∈ before ++ [v] := by
        intro w
        simp [h w, or_comm]
      rw [firstRepeated, if_neg hv, ih (before ++ [v]) (v :: seen) hnext]
      simp [List.zipIdx_cons, hb]

theorem firstRepeated_eq_head? (values : List String) :
    firstRepeated [] values = (repeated values).head? :=
  firstRepeated_append [] values [] fun _ => Iff.rfl

def Axis.errors (axis : Axis) : List DeclarationError :=
  (if axis.values.isEmpty then [.emptyAxis axis.name] else []) ++
    (repeated axis.values).map (.repeatedValue axis.name)

theorem checkAxis_eq_firstOf (axis : Axis) : checkAxis axis = firstOf axis.errors := by
  by_cases he : axis.values = []
  · simp [checkAxis, Axis.errors, he, firstOf]
  · rw [checkAxis, if_neg he, firstRepeated_eq_head?, Axis.errors]
    cases repeated axis.values <;> simp [he, firstOf]

theorem Axis.errors_eq_nil_iff {axis : Axis} : axis.errors = [] ↔ axis.values ≠ [] ∧ axis.values.Nodup := by
  simp [Axis.errors, repeated_eq_nil_iff]

theorem checkAxes_eq_firstOf (axes : List Axis) (toolchain : Option ToolchainAxis) :
    checkAxes axes toolchain = (do
      firstOf ((if axes = [] then [.noAxes] else []) ++ axes.flatMap Axis.errors)
      toolchain.forM (checkToolchain axes)) := by
  have haxes : axes.forM checkAxis = firstOf (axes.flatMap Axis.errors) :=
    forM_eq_firstOf fun axis _ => checkAxis_eq_firstOf axis
  rw [checkAxes, haxes]
  by_cases he : axes = []
  · simp [he, firstOf, bind, Except.bind, throw, throwThe, MonadExceptOf.throw]
  · simp [he]

theorem values_of_checkAxes {axes : List Axis} {toolchain : Option ToolchainAxis}
    (h : checkAxes axes toolchain = .ok ()) : ∀ axis ∈ axes, axis.values ≠ [] ∧ axis.values.Nodup := by
  intro axis ha
  rw [checkAxes_eq_firstOf, bind_eq_ok_iff] at h
  obtain ⟨_, hf, -⟩ := h
  have hnone := (List.append_eq_nil_iff.mp (firstOf_eq_ok_iff.mp hf)).2
  exact Axis.errors_eq_nil_iff.mp (List.flatMap_eq_nil_iff.mp hnone axis ha)

theorem size_pos_of_checkAxes {axes : List Axis} {toolchain : Option ToolchainAxis}
    (h : checkAxes axes toolchain = .ok ()) : ∀ axis ∈ axes, 0 < axis.size := fun axis ha =>
  List.length_pos_iff.mpr (values_of_checkAxes h axis ha).1

end JobMatrix
