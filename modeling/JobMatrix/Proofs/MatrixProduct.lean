import JobMatrix.Proofs.AxisCheck
import JobMatrix.Proofs.TableEntries
import Mathlib.Algebra.BigOperators.Group.List.Basic
import Mathlib.Algebra.BigOperators.Ring.List
import Mathlib.Algebra.GroupWithZero.Nat
import Mathlib.Data.List.Forall2
import Mathlib.Data.List.TakeWhile

/-!
The jobs of a matrix are the product of its axes. A number below the product is read backwards, digit by
digit; putting a digit in front of the numbers of the later axes gives the numbers of all axes, so the
digits of all numbers in a row are the choices of the product in a row.
-/
namespace JobMatrix

def combinationCount (axes : List Axis) : Nat := (axes.map Axis.size).prod

def valuesAt (axes : List Axis) (places : List Nat) : List String :=
  axes.zipWith (fun axis place => axis.values[place]?.getD "") places

theorem combinationCount_cons (axis : Axis) (rest : List Axis) :
    combinationCount (axis :: rest) = axis.size * combinationCount rest := by
  simp [combinationCount]

theorem combinationCount_pos {axes : List Axis} (h : ∀ axis ∈ axes, 0 < axis.size) :
    0 < combinationCount axes := by
  induction axes with
  | nil => simp [combinationCount]
  | cons axis rest ih =>
    rw [combinationCount_cons]
    exact Nat.mul_pos (h axis (by simp)) (ih fun a ha => h a (List.mem_cons_of_mem axis ha))

theorem combinationCount_eq_zero {axes : List Axis} {axis : Axis} (ha : axis ∈ axes) (hzero : axis.size = 0) :
    combinationCount axes = 0 := by
  have hm : 0 ∈ axes.map Axis.size := List.mem_map.mpr ⟨axis, ha, hzero⟩
  exact List.prod_eq_zero hm

def jobCountFrom (count : Nat) : List Axis → Except DeclarationError Nat
  | [] => .ok count
  | axis :: rest =>
    if count * axis.size ≤ jobLimit then jobCountFrom (count * axis.size) rest else .error .tooManyJobs

theorem foldlM_eq_jobCountFrom (axes : List Axis) (count : Nat) :
    axes.foldlM (fun count axis =>
      if count * axis.size ≤ jobLimit then Except.ok (count * axis.size)
      else Except.error DeclarationError.tooManyJobs) count = jobCountFrom count axes := by
  induction axes generalizing count with
  | nil => rfl
  | cons axis rest ih =>
    rw [List.foldlM_cons, jobCountFrom]
    split
    · exact ih (count * axis.size)
    · rfl

def Axis.isFilled (axis : Axis) : Bool := 0 < axis.size

theorem Axis.isFilled_iff {axis : Axis} : axis.isFilled = true ↔ 0 < axis.size := decide_eq_true_iff

theorem Axis.size_eq_zero_iff {axis : Axis} : axis.size = 0 ↔ ¬ axis.isFilled = true := by
  rw [isFilled_iff, Nat.pos_iff_ne_zero, not_not]

def leadingAxes (axes : List Axis) : List Axis := axes.takeWhile Axis.isFilled

theorem leadingAxes_eq_self {axes : List Axis} (h : ∀ axis ∈ axes, 0 < axis.size) : leadingAxes axes = axes :=
  List.takeWhile_eq_self_iff.mpr fun axis ha => Axis.isFilled_iff.mpr (h axis ha)

theorem combinationCount_leadingAxes_pos (axes : List Axis) : 0 < combinationCount (leadingAxes axes) :=
  combinationCount_pos fun _ ha => Axis.isFilled_iff.mp (List.mem_takeWhile_imp ha)

/-- Partial products grow up to the first axis without values, and vanish behind it. -/
theorem jobCountFrom_eq (axes : List Axis) {count : Nat} (hc : count ≤ jobLimit) :
    jobCountFrom count axes =
      if count * combinationCount (leadingAxes axes) ≤ jobLimit then .ok (count * combinationCount axes)
      else .error .tooManyJobs := by
  induction axes generalizing count with
  | nil => simp [jobCountFrom, leadingAxes, combinationCount, hc]
  | cons axis rest ih =>
    rw [jobCountFrom, combinationCount_cons, ← Nat.mul_assoc]
    by_cases hsize : 0 < axis.size
    · have hleading : leadingAxes (axis :: rest) = axis :: leadingAxes rest :=
        List.takeWhile_cons_of_pos (Axis.isFilled_iff.mpr hsize)
      rw [hleading, combinationCount_cons, ← Nat.mul_assoc]
      by_cases hpart : count * axis.size ≤ jobLimit
      · rw [if_pos hpart, ih hpart]
      · have hlater := Nat.le_mul_of_pos_right (count * axis.size) (combinationCount_leadingAxes_pos rest)
        rw [if_neg hpart, if_neg (by omega)]
    · have hzero : axis.size = 0 := Nat.eq_zero_of_not_pos hsize
      have hleading : leadingAxes (axis :: rest) = [] :=
        List.takeWhile_cons_of_neg (Axis.size_eq_zero_iff.mp hzero)
      rw [hleading, hzero, Nat.mul_zero, Nat.zero_mul, if_pos (Nat.zero_le _), ih (Nat.zero_le _), Nat.zero_mul,
        Nat.zero_mul, if_pos (Nat.zero_le _), if_pos (by simpa [combinationCount] using hc)]

theorem jobCount_eq (axes : List Axis) :
    jobCount axes =
      if combinationCount (leadingAxes axes) ≤ jobLimit then .ok (combinationCount axes)
      else .error .tooManyJobs := by
  rw [jobCount, foldlM_eq_jobCountFrom, jobCountFrom_eq axes (by decide), Nat.one_mul, Nat.one_mul]

theorem combinationCount_le_leadingAxes (axes : List Axis) :
    combinationCount axes ≤ combinationCount (leadingAxes axes) := by
  by_cases hall : ∀ axis ∈ axes, 0 < axis.size
  · rw [leadingAxes_eq_self hall]
  · obtain ⟨axis, ha, hzero⟩ : ∃ axis ∈ axes, axis.size = 0 := by simpa using hall
    rw [combinationCount_eq_zero ha hzero]
    exact Nat.zero_le _

theorem jobCount_eq_ok {axes : List Axis} (h : ∀ axis ∈ axes, 0 < axis.size)
    (hl : combinationCount axes ≤ jobLimit) : jobCount axes = .ok (combinationCount axes) := by
  rw [jobCount_eq, leadingAxes_eq_self h, if_pos hl]

theorem jobCount_eq_error {axes : List Axis} (hl : jobLimit < combinationCount axes) :
    jobCount axes = .error .tooManyJobs := by
  have hle := combinationCount_le_leadingAxes axes
  rw [jobCount_eq, if_neg (by omega)]

theorem positions_cons (axis : Axis) (rest : List Axis) (number : Nat) :
    positions (axis :: rest) number =
      ((positions rest number).2 % axis.size :: (positions rest number).1,
        (positions rest number).2 / axis.size) := rfl

theorem length_positions (axes : List Axis) (number : Nat) :
    (positions axes number).1.length = axes.length := by
  induction axes with
  | nil => rfl
  | cons axis rest ih => simp [positions_cons, ih]

theorem positions_lt_size {axes : List Axis} (h : ∀ axis ∈ axes, 0 < axis.size) (number : Nat) :
    List.Forall₂ (fun axis place => place < axis.size) axes (positions axes number).1 := by
  induction axes with
  | nil => exact List.Forall₂.nil
  | cons axis rest ih =>
    rw [positions_cons]
    exact List.Forall₂.cons (Nat.mod_lt _ (h axis (by simp)))
      (ih fun a ha => h a (List.mem_cons_of_mem axis ha))

theorem positions_snd (axes : List Axis) (number : Nat) :
    (positions axes number).2 = number / combinationCount axes := by
  induction axes with
  | nil => simp [positions, combinationCount]
  | cons axis rest ih =>
    rw [positions_cons, combinationCount_cons, Nat.mul_comm, ← Nat.div_div_eq_div_mul, ← ih]

theorem positions_add_mul {axes : List Axis} (h : ∀ axis ∈ axes, 0 < axis.size) (rounds number : Nat) :
    (positions axes (rounds * combinationCount axes + number)).1 = (positions axes number).1 := by
  induction axes generalizing rounds with
  | nil => rfl
  | cons axis rest ih =>
    have hrest : ∀ a ∈ rest, 0 < a.size := fun a ha => h a (List.mem_cons_of_mem axis ha)
    have hsplit : rounds * combinationCount (axis :: rest) + number =
        rounds * axis.size * combinationCount rest + number := by
      rw [combinationCount_cons, Nat.mul_assoc]
    have hleft : (positions rest (rounds * axis.size * combinationCount rest + number)).2 =
        (positions rest number).2 + axis.size * rounds := by
      rw [positions_snd, positions_snd, Nat.add_comm (_ * _) number,
        Nat.add_mul_div_right _ _ (combinationCount_pos hrest), Nat.mul_comm axis.size]
    rw [hsplit]
    simp only [positions_cons]
    rw [hleft, ih hrest, Nat.add_mul_mod_self_left]

theorem positions_first_digit {axis : Axis} {rest : List Axis}
    (h : ∀ a ∈ rest, 0 < a.size) {digit number : Nat} (hd : digit < axis.size)
    (hn : number < combinationCount rest) :
    (positions (axis :: rest) (digit * combinationCount rest + number)).1 =
      digit :: (positions rest number).1 := by
  rw [positions_cons, positions_add_mul h, positions_snd, Nat.mul_comm,
    Nat.mul_add_div (combinationCount_pos h), Nat.div_eq_of_lt hn, Nat.add_zero, Nat.mod_eq_of_lt hd]

theorem range_mul (m n : Nat) :
    List.range (m * n) = (List.range m).flatMap fun k => (List.range n).map (k * n + ·) := by
  induction m with
  | zero => simp
  | succ m ih =>
    rw [Nat.succ_mul, List.range_add, ih, List.range_succ, List.flatMap_append]
    simp

theorem flatMap_range_getElem? {α : Type} (values : List String) (f : String → List α) :
    ((List.range values.length).flatMap fun k => f (values[k]?.getD "")) = values.flatMap f := by
  have hm : (List.range values.length).map (fun k => values[k]?.getD "") = values := by
    apply List.ext_getElem (by simp)
    intro i hi hi'
    simp [hi']
  conv_rhs => rw [← hm]
  rw [List.flatMap_map]

theorem valuesAt_cons (axis : Axis) (rest : List Axis) (place : Nat) (places : List Nat) :
    valuesAt (axis :: rest) (place :: places) =
      axis.values[place]?.getD "" :: valuesAt rest places := rfl

theorem mem_valuesAt {axes : List Axis} {places : List Nat}
    (h : List.Forall₂ (fun axis place => place < axis.size) axes places) :
    List.Forall₂ (fun axis value => value ∈ axis.values) axes (valuesAt axes places) := by
  induction h with
  | nil => exact List.Forall₂.nil
  | @cons axis place rest places hlt later ih =>
    rw [valuesAt_cons]
    refine List.Forall₂.cons ?_ ih
    have hsome : axis.values[place]? = some axis.values[place] := List.getElem?_eq_getElem hlt
    rw [hsome]
    exact List.getElem_mem hlt

/-- The numbers in a row give the choices in a row: the first digit belongs to the first axis, and for each
of its values the later digits run through the product of the later axes. -/
theorem map_valuesAt_range {axes : List Axis} (h : ∀ axis ∈ axes, 0 < axis.size) :
    (List.range (combinationCount axes)).map (fun n => valuesAt axes (positions axes n).1) =
      combinations axes := by
  induction axes with
  | nil => rfl
  | cons axis rest ih =>
    have hrest : ∀ a ∈ rest, 0 < a.size := fun a ha => h a (List.mem_cons_of_mem axis ha)
    have hdigit : ∀ d ∈ List.range axis.size,
        ((List.range (combinationCount rest)).map (d * combinationCount rest + ·)).map
          (fun n => valuesAt (axis :: rest) (positions (axis :: rest) n).1) =
        (combinations rest).map (axis.values[d]?.getD "" :: ·) := by
      intro d hd
      rw [← ih hrest, List.map_map, List.map_map]
      apply List.map_congr_left
      intro n hn
      simp only [Function.comp_apply]
      rw [positions_first_digit hrest (List.mem_range.mp hd) (List.mem_range.mp hn), valuesAt_cons]
    rw [combinationCount_cons, range_mul, List.map_flatMap, List.flatMap_congr hdigit, combinations]
    exact flatMap_range_getElem? axis.values fun value => (combinations rest).map (value :: ·)

theorem mem_combinations_iff {axes : List Axis} {choice : List String} :
    choice ∈ combinations axes ↔ List.Forall₂ (fun axis value => value ∈ axis.values) axes choice := by
  induction axes generalizing choice with
  | nil => simp [combinations]
  | cons axis rest ih =>
    simp only [combinations, List.mem_flatMap, List.mem_map, List.forall₂_cons_left_iff]
    constructor
    · rintro ⟨value, hv, later, hl, rfl⟩
      exact ⟨value, later, hv, ih.mp hl, rfl⟩
    · rintro ⟨value, later, hv, hl, rfl⟩
      exact ⟨value, hv, later, ih.mpr hl, rfl⟩

theorem length_combinations (axes : List Axis) : (combinations axes).length = combinationCount axes := by
  induction axes with
  | nil => rfl
  | cons axis rest ih =>
    rw [combinations, List.length_flatMap, combinationCount_cons, ← ih]
    simp [Axis.size]

theorem nodup_combinations {axes : List Axis} (h : ∀ axis ∈ axes, axis.values.Nodup) :
    (combinations axes).Nodup := by
  induction axes with
  | nil => simp [combinations]
  | cons axis rest ih =>
    have hrest : (combinations rest).Nodup := ih fun a ha => h a (List.mem_cons_of_mem axis ha)
    refine List.nodup_flatMap.mpr ⟨fun value _ => hrest.map fun a b hab => (List.cons.inj hab).2, ?_⟩
    apply (h axis (by simp)).imp
    intro v w hvw choice hv hw
    obtain ⟨a, -, rfl⟩ := List.mem_map.mp hv
    obtain ⟨b, -, hb⟩ := List.mem_map.mp hw
    exact hvw (List.cons.inj hb).1.symm

theorem zipWith_name_value (axes : List Axis) (places : List Nat) :
    axes.zipWith (fun axis place => (axis.name, axis.values[place]?.getD "")) places =
      (axes.map Axis.name).zip (valuesAt axes places) := by
  induction axes generalizing places with
  | nil => rfl
  | cons axis rest ih =>
    cases places with
    | nil => rfl
    | cons place later => exact congrArg (_ :: ·) (ih later)

theorem length_valuesAt_positions (axes : List Axis) (number : Nat) :
    (valuesAt axes (positions axes number).1).length = axes.length := by
  simp [valuesAt, length_positions]

theorem entries_jobAt {axes : List Axis} (toolchain : Option ToolchainAxis)
    (distinct : (axes.map Axis.name).Nodup) (number : Nat) :
    (jobAt axes toolchain number).values.entries =
      (axes.map Axis.name).zip (valuesAt axes (positions axes number).1) := by
  have hl := length_valuesAt_positions axes number
  have hs : (((axes.map Axis.name).zip (valuesAt axes (positions axes number).1)).map Prod.fst).Nodup := by
    rw [List.map_fst_zip (by simp [hl])]
    exact distinct
  simp only [jobAt, choose, zipWith_name_value]
  exact Table.entries_ofList hs

theorem names_jobAt {axes : List Axis} (toolchain : Option ToolchainAxis)
    (distinct : (axes.map Axis.name).Nodup) (number : Nat) :
    (jobAt axes toolchain number).values.names = axes.map Axis.name := by
  rw [Table.names, entries_jobAt toolchain distinct,
    List.map_fst_zip (by simp [length_valuesAt_positions])]

theorem map_value?_jobAt {axes : List Axis} (toolchain : Option ToolchainAxis)
    (distinct : (axes.map Axis.name).Nodup) (number : Nat) :
    axes.map (fun axis => (jobAt axes toolchain number).value? axis.name) =
      (valuesAt axes (positions axes number).1).map some := by
  rw [← Table.map_get?_of_entries_eq_zip (entries_jobAt toolchain distinct number)
    (by simp [length_valuesAt_positions]), List.map_map]
  rfl

theorem exists_value?_jobAt {axes : List Axis} (toolchain : Option ToolchainAxis)
    (distinct : (axes.map Axis.name).Nodup) (h : ∀ axis ∈ axes, 0 < axis.size) (number : Nat) :
    ∀ axis ∈ axes, ∃ v ∈ axis.values, (jobAt axes toolchain number).value? axis.name = some v := by
  have hmem := mem_valuesAt (positions_lt_size h number)
  have hsome : List.Forall₂ (fun axis found => ∃ v ∈ axis.values, found = some v) axes
      ((valuesAt axes (positions axes number).1).map some) :=
    List.forall₂_map_right_iff.mpr (hmem.imp fun axis v hv => ⟨v, hv, rfl⟩)
  rw [← map_value?_jobAt toolchain distinct, List.forall₂_map_right_iff] at hsome
  exact List.forall₂_same.mp hsome

theorem map_entries_jobAt {axes : List Axis} (toolchain : Option ToolchainAxis)
    (distinct : (axes.map Axis.name).Nodup) (h : ∀ axis ∈ axes, 0 < axis.size) :
    ((List.range (combinationCount axes)).map (jobAt axes toolchain)).map (·.values.entries) =
      (combinations axes).map ((axes.map Axis.name).zip ·) := by
  rw [← map_valuesAt_range h, List.map_map, List.map_map]
  apply List.map_congr_left
  intro n _
  exact entries_jobAt toolchain distinct n

theorem existsUnique_jobAt {axes : List Axis} (toolchain : Option ToolchainAxis)
    (distinct : (axes.map Axis.name).Nodup) (h : ∀ axis ∈ axes, 0 < axis.size)
    (hn : ∀ axis ∈ axes, axis.values.Nodup) {choice : List String}
    (hc : List.Forall₂ (fun axis value => value ∈ axis.values) axes choice) :
    ∃! job, job ∈ (List.range (combinationCount axes)).map (jobAt axes toolchain) ∧
      axes.map (fun axis => job.value? axis.name) = choice.map some := by
  have hrow := map_valuesAt_range h
  have hmem : choice ∈ (List.range (combinationCount axes)).map
      fun n => valuesAt axes (positions axes n).1 := by
    rw [hrow]
    exact mem_combinations_iff.mpr hc
  obtain ⟨n, hlt, hv⟩ := List.mem_map.mp hmem
  refine ⟨jobAt axes toolchain n, ⟨List.mem_map_of_mem hlt, ?_⟩, ?_⟩
  · rw [map_value?_jobAt toolchain distinct, hv]
  · rintro job ⟨hj, hjv⟩
    obtain ⟨m, hm, rfl⟩ := List.mem_map.mp hj
    rw [map_value?_jobAt toolchain distinct] at hjv
    have hsame : valuesAt axes (positions axes m).1 = valuesAt axes (positions axes n).1 := by
      rw [hv]
      exact (List.map_injective_iff.mpr (Option.some_injective String)) hjv
    have hinj := List.inj_on_of_nodup_map (hrow ▸ nodup_combinations hn)
    rw [hinj hm hlt hsame]

theorem toolchainOf_eq_pinned_iff (toolchain : Option ToolchainAxis) (values : Table String) :
    toolchainOf toolchain values = .pinned ↔
      ∃ t, toolchain = some t ∧ values.get? t.axis = some t.pinned := by
  cases toolchain with
  | none => simp [toolchainOf]
  | some t => by_cases ht : values.get? t.axis = some t.pinned <;> simp [toolchainOf, ht]

theorem expand_eq_ok {axes : List Axis} {toolchain : Option ToolchainAxis}
    (checked : checkAxes axes toolchain = .ok ()) (addressable : combinationCount axes ≤ jobLimit) :
    expand axes toolchain = .ok ((List.range (combinationCount axes)).map (jobAt axes toolchain)) := by
  rw [expand, checked, jobCount_eq_ok (size_pos_of_checkAxes checked) addressable]
  rfl

theorem expand_eq_error {axes : List Axis} {toolchain : Option ToolchainAxis}
    (checked : checkAxes axes toolchain = .ok ()) (beyond : jobLimit < combinationCount axes) :
    expand axes toolchain = .error .tooManyJobs := by
  rw [expand, checked, jobCount_eq_error beyond]
  rfl

theorem expand_eq_ok_iff {axes : List Axis} {toolchain : Option ToolchainAxis} {jobs : List Job} :
    expand axes toolchain = .ok jobs ↔ checkAxes axes toolchain = .ok () ∧ combinationCount axes ≤ jobLimit ∧
      jobs = (List.range (combinationCount axes)).map (jobAt axes toolchain) := by
  constructor
  · intro h
    have checked : checkAxes axes toolchain = .ok () := by
      rw [expand, bind_unit_eq_ok_iff] at h
      exact h.1
    rcases Nat.lt_or_ge jobLimit (combinationCount axes) with beyond | addressable
    · rw [expand_eq_error checked beyond] at h
      cases h
    · rw [expand_eq_ok checked addressable] at h
      cases h
      exact ⟨checked, addressable, rfl⟩
  · rintro ⟨checked, addressable, rfl⟩
    exact expand_eq_ok checked addressable

theorem toolchain_of_expand {axes : List Axis} {toolchain : Option ToolchainAxis} {jobs : List Job}
    (expands : expand axes toolchain = .ok jobs) {job : Job} (hj : job ∈ jobs) :
    job.toolchain = toolchainOf toolchain job.values := by
  obtain ⟨-, -, rfl⟩ := expand_eq_ok_iff.mp expands
  obtain ⟨number, -, rfl⟩ := List.mem_map.mp hj
  rfl

/-- A checked matrix of addressable size expands into the product of its axes: the jobs make the choices of
the product in their order, each choice once; they are numbered in this order and have the axes' names in the
order of declaration; and they are pinned as the toolchain says. No position is read outside of its axis. -/
theorem expand_eq_product {axes : List Axis} {toolchain : Option ToolchainAxis}
    (distinct : (axes.map Axis.name).Nodup) (checked : checkAxes axes toolchain = .ok ())
    (addressable : combinationCount axes ≤ jobLimit) :
    ∃ jobs, expand axes toolchain = .ok jobs ∧
      jobs.map (·.values.entries) = (combinations axes).map ((axes.map Axis.name).zip ·) ∧
      jobs.length = combinationCount axes ∧ jobCount axes = .ok jobs.length ∧
      jobs.map Job.index = List.range jobs.length ∧
      (∀ job ∈ jobs, job.values.names = axes.map Axis.name) ∧
      (∀ choice, List.Forall₂ (fun axis value => value ∈ axis.values) axes choice →
        ∃! job, job ∈ jobs ∧ axes.map (fun axis => job.value? axis.name) = choice.map some) ∧
      (∀ job ∈ jobs, job.toolchain = .pinned ↔
        ∃ t, toolchain = some t ∧ job.value? t.axis = some t.pinned) ∧
      ∀ number, List.Forall₂ (fun axis place => place < axis.size) axes (positions axes number).1 := by
  have hvalues := values_of_checkAxes checked
  have hpos : ∀ axis ∈ axes, 0 < axis.size := fun axis ha => List.length_pos_iff.mpr (hvalues axis ha).1
  have hnodup : ∀ axis ∈ axes, axis.values.Nodup := fun axis ha => (hvalues axis ha).2
  refine ⟨_, expand_eq_ok checked addressable, map_entries_jobAt toolchain distinct hpos, by simp,
    ?_, ?_, ?_, ?_, ?_, positions_lt_size hpos⟩
  · simpa using jobCount_eq_ok hpos addressable
  · have hid : Job.index ∘ jobAt axes toolchain = id := rfl
    rw [List.map_map, hid, List.map_id]
    simp
  · intro job hj
    obtain ⟨n, -, rfl⟩ := List.mem_map.mp hj
    exact names_jobAt toolchain distinct n
  · intro choice hc
    exact existsUnique_jobAt toolchain distinct hpos hnodup hc
  · intro job hj
    obtain ⟨n, -, rfl⟩ := List.mem_map.mp hj
    exact toolchainOf_eq_pinned_iff toolchain _

def backendAxes : List Axis :=
  [⟨"backend", ["rustcrypto", "mbedtls", "openssl"]⟩, ⟨"features", ["", "alloc", "os"]⟩,
    ⟨"toolchain", ["stable", "nightly"]⟩]

theorem expand_backendAxes :
    (backendAxes.map Axis.name).Nodup ∧ checkAxes backendAxes (some .standard) = .ok () ∧
      combinationCount backendAxes ≤ jobLimit ∧
      ∃ jobs, expand backendAxes (some .standard) = .ok jobs ∧ jobs.length = 18 ∧
        ∃! job, job ∈ jobs ∧ backendAxes.map (fun axis => job.value? axis.name) =
          [some "mbedtls", some "", some "nightly"] := by
  refine ⟨by decide, by decide, by decide, ?_⟩
  obtain ⟨jobs, he, -, hl, -, -, -, hu, -⟩ :=
    expand_eq_product (by decide : (backendAxes.map Axis.name).Nodup)
      (by decide : checkAxes backendAxes (some .standard) = .ok ()) (by decide)
  refine ⟨jobs, he, hl, hu ["mbedtls", "", "nightly"] ?_⟩
  exact .cons (by decide) (.cons (by decide) (.cons (by decide) .nil))

end JobMatrix
