import JobMatrix.Proofs.AxisOrder
import Mathlib.Data.List.Chain

/-!
The names of jobs. A name puts each value behind the name of its axis and does not mark where the value ends, so a
value that holds a separator can be read as a shorter one and some of what comes after it. That is the only way in
which two jobs of a matrix come to have one name.
-/
namespace JobMatrix
open Text

theorem Text.split_of_append_eq {a b c d : String} (h : a ++ b = c ++ d) :
    (∃ u, c = a ++ u ∧ b = u ++ d) ∨ ∃ u, a = c ++ u ∧ d = u ++ b := by
  have hlists : a.toList ++ b.toList = c.toList ++ d.toList := by
    simpa only [String.toList_append] using congrArg String.toList h
  rcases List.append_eq_append_iff.mp hlists with ⟨u, hc, hb⟩ | ⟨u, ha, hd⟩
  · refine .inl ⟨.ofList u, String.toList_inj.mp ?_, String.toList_inj.mp ?_⟩
    · rw [String.toList_append, String.toList_ofList, hc]
    · rw [String.toList_append, String.toList_ofList, hb]
  · refine .inr ⟨.ofList u, String.toList_inj.mp ?_, String.toList_inj.mp ?_⟩
    · rw [String.toList_append, String.toList_ofList, ha]
    · rw [String.toList_append, String.toList_ofList, hd]

namespace Job

/-- What a name says of entries that stand behind others. -/
def following : List (String × String) → String
  | [] => ""
  | (axis, value) :: rest => ", " ++ axis ++ "=" ++ value ++ following rest

/-- The entries are the same up to an axis on which the second value begins with the first. What it goes on with, and
after it the entries behind it, is what is said of the entries behind the first value. -/
inductive Blurs : List (String × String) → List (String × String) → Prop
  | here {axis value surplus : String} {later later' : List (String × String)} (longer : surplus ≠ "")
      (same : following later = surplus ++ following later') :
      Blurs ((axis, value) :: later) ((axis, value ++ surplus) :: later')
  | next (entry : String × String) {later later' : List (String × String)} (rest : Blurs later later') :
      Blurs (entry :: later) (entry :: later')

def Indistinct (es fs : List (String × String)) : Prop := es = fs ∨ Blurs es fs ∨ Blurs fs es

section Entries
variable {es fs : List (String × String)} {axis : String}

theorem Indistinct.symm (h : Indistinct es fs) : Indistinct fs es := by
  rcases h with rfl | h | h
  · exact .inl rfl
  · exact .inr (.inr h)
  · exact .inr (.inl h)

theorem Indistinct.next (entry : String × String) (h : Indistinct es fs) : Indistinct (entry :: es) (entry :: fs) := by
  rcases h with rfl | h | h
  · exact .inl rfl
  · exact .inr (.inl (.next entry h))
  · exact .inr (.inr (.next entry h))

theorem indistinct_cons {value surplus : String} (hrest : following es = surplus ++ following fs)
    (ih : following es = following fs → Indistinct es fs) :
    Indistinct ((axis, value) :: es) ((axis, value ++ surplus) :: fs) := by
  by_cases hempty : surplus = ""
  · subst hempty
    rw [String.append_empty]
    rw [String.empty_append] at hrest
    exact (ih hrest).next (axis, value)
  · exact .inr (.inl (.here hempty hrest))

theorem indistinct_of_following_eq (axes : es.map Prod.fst = fs.map Prod.fst) (h : following es = following fs) :
    Indistinct es fs := by
  induction es generalizing fs with
  | nil =>
    obtain rfl : fs = [] := by simpa using axes.symm
    exact .inl rfl
  | cons e es ih =>
    cases fs with
    | nil => simp at axes
    | cons f fs =>
      obtain ⟨axis, v⟩ := e
      obtain ⟨axis', w⟩ := f
      obtain ⟨rfl, hrest⟩ : axis = axis' ∧ es.map Prod.fst = fs.map Prod.fst := by simpa using axes
      have hsaid : v ++ following es = w ++ following fs := by
        simpa only [following, String.append_assoc, String.append_right_inj] using h
      -- one of the values begins with the other, and the rest of it is said by the entries behind
      rcases split_of_append_eq hsaid with ⟨surplus, rfl, hes⟩ | ⟨surplus, rfl, hfs⟩
      · exact indistinct_cons hes (ih hrest)
      · exact (indistinct_cons hfs fun hsame => (ih hrest hsame.symm).symm).symm

theorem Blurs.following_eq (h : Blurs es fs) : following es = following fs := by
  induction h with
  | here longer same => simp only [following, same, String.append_assoc]
  | next entry rest ih => simp only [following, ih]

theorem following_eq_append (first : String × String) (rest : List (String × String)) : following (first :: rest) =
    ", " ++ joinWith ", " ((first :: rest).map fun (axis, value) => axis ++ "=" ++ value) := by
  induction rest generalizing first with
  | nil => simp [following, joinWith, String.append_assoc]
  | cons second rest ih =>
    rw [following, ih]
    simp only [List.map_cons, joinWith, String.append_assoc]

theorem prefix_of_following_eq {surplus x y : String} (value : String)
    (h : following ((axis, x) :: es) = surplus ++ following ((axis, y) :: fs)) :
    (value ++ ", " ++ axis ++ "=").toList <+: (value ++ surplus ++ ", " ++ axis ++ "=").toList := by
  let mark := (", " ++ axis ++ "=").toList
  have hlists : mark ++ (x ++ following es).toList = surplus.toList ++ mark ++ (y ++ following fs).toList := by
    simpa [following, mark] using congrArg String.toList h
  have hfirst : mark <+: mark ++ (x ++ following es).toList := List.prefix_append _ _
  have hsecond : surplus.toList ++ mark <+: mark ++ (x ++ following es).toList := hlists ▸ List.prefix_append _ _
  have hlength : mark.length ≤ (surplus.toList ++ mark).length := by
    rw [List.length_append]
    omega
  have hmark := (List.prefix_append_right_inj value.toList).mpr (List.prefix_of_prefix_length_le hfirst hsecond hlength)
  simpa [mark] using hmark

end Entries

end Job

def Axis.IsSetOffFrom (axis next : Axis) : Prop :=
  ∀ v ∈ axis.values, ∀ w ∈ axis.values, v ≠ w →
    ¬ (v ++ ", " ++ next.name ++ "=").toList <+: (w ++ ", " ++ next.name ++ "=").toList

instance (axis next : Axis) : Decidable (axis.IsSetOffFrom next) :=
  inferInstanceAs (Decidable (∀ v ∈ axis.values, ∀ w ∈ axis.values, v ≠ w →
    ¬ (v ++ ", " ++ next.name ++ "=").toList <+: (w ++ ", " ++ next.name ++ "=").toList))

section Matrix
variable {axes : List Axis} {toolchain : Option ToolchainAxis} {jobs : List Job} {j k : Job}

theorem not_blurs (setOff : axes.IsChain Axis.IsSetOffFrom) {choice choice' : List String}
    (hc : List.Forall₂ (fun axis value => value ∈ axis.values) axes choice)
    (hc' : List.Forall₂ (fun axis value => value ∈ axis.values) axes choice') :
    ¬ Job.Blurs ((axes.map Axis.name).zip choice) ((axes.map Axis.name).zip choice') := by
  induction hc generalizing choice' with
  | nil => nofun
  | @cons axis v rest later hv hlater ih =>
    obtain ⟨w, later', hw, hlater', rfl⟩ := List.forall₂_cons_left_iff.mp hc'
    rw [List.map_cons, List.zip_cons_cons, List.zip_cons_cons]
    intro h
    cases h with
    | @here _ _ surplus _ _ longer same =>
      cases hlater with
      | nil =>
        -- nothing is said behind the last axis, so its value cannot go on
        cases hlater'
        exact longer (by simpa [Job.following] using same)
      | @cons next _ _ _ hvalue hvalues =>
        cases hlater' with
        | cons hvalue' hvalues' =>
          have hne : v ≠ v ++ surplus := by
            intro heq
            have hempty : v ++ "" = v ++ surplus := String.append_empty.trans heq
            exact longer ((String.append_right_inj v).mp hempty).symm
          exact (List.isChain_cons_cons.mp setOff).1 v hv _ hw hne (Job.prefix_of_following_eq v same)
    | next _ hrest => exact ih setOff.tail hlater' hrest

theorem eq_of_entries_eq (distinct : (axes.map Axis.name).Nodup) (expands : expand axes toolchain = .ok jobs)
    (hj : j ∈ jobs) (hk : k ∈ jobs) (h : j.values.entries = k.values.entries) : j = k := by
  have hvalues : ∀ axis, j.values.get? axis = k.values.get? axis := fun axis => by
    rw [Table.get?, Table.get?, h]
  refine eq_of_isLike distinct expands hj hk ⟨hvalues, ?_⟩
  rw [toolchain_of_expand expands hj, toolchain_of_expand expands hk, toolchainOf_congr hvalues]

theorem Job.name_eq_iff_following_eq (h : j.values.names = k.values.names) :
    j.name = k.name ↔ Job.following j.values.entries = Job.following k.values.entries := by
  rw [Job.name, Job.name]
  cases hj : j.values.entries with
  | nil =>
    have hk : k.values.entries = [] := by simpa [Table.names, hj] using h.symm
    rw [hk]
    simp
  | cons e es =>
    cases hk : k.values.entries with
    | nil => simp [Table.names, hj, hk] at h
    | cons f fs => rw [following_eq_append, following_eq_append, String.append_right_inj]

/-- Two jobs of a matrix have one name exactly if the values of one blur those of the other. No two jobs have one name
if the values of each axis, with the text up to the value on the next axis, do not begin with one another. -/
theorem name_eq_iff_blurs (distinct : (axes.map Axis.name).Nodup) (expands : expand axes toolchain = .ok jobs)
    (hj : j ∈ jobs) (hk : k ∈ jobs) (different : j ≠ k) :
    (j.name = k.name ↔
      Job.Blurs j.values.entries k.values.entries ∨ Job.Blurs k.values.entries j.values.entries) ∧
      (axes.IsChain Axis.IsSetOffFrom → j.name ≠ k.name) := by
  have hentries : j.values.entries ≠ k.values.entries := fun h =>
    different (eq_of_entries_eq distinct expands hj hk h)
  obtain ⟨checked, -, rfl⟩ := expand_eq_ok_iff.mp expands
  have hpos := size_pos_of_checkAxes checked
  obtain ⟨n, -, rfl⟩ := List.mem_map.mp hj
  obtain ⟨m, -, rfl⟩ := List.mem_map.mp hk
  have hnames : (jobAt axes toolchain n).values.names = (jobAt axes toolchain m).values.names :=
    (names_jobAt toolchain distinct n).trans (names_jobAt toolchain distinct m).symm
  have hsame := Job.name_eq_iff_following_eq hnames
  have hiff : (jobAt axes toolchain n).name = (jobAt axes toolchain m).name ↔
      Job.Blurs (jobAt axes toolchain n).values.entries (jobAt axes toolchain m).values.entries ∨
        Job.Blurs (jobAt axes toolchain m).values.entries (jobAt axes toolchain n).values.entries := by
    rw [hsame]
    constructor
    · intro h
      exact (Job.indistinct_of_following_eq hnames h).resolve_left hentries
    · rintro (h | h)
      · exact h.following_eq
      · exact h.following_eq.symm
  refine ⟨hiff, fun setOff heq => ?_⟩
  have hn := mem_valuesAt (positions_lt_size hpos n)
  have hm := mem_valuesAt (positions_lt_size hpos m)
  have hblurs := hiff.mp heq
  rw [entries_jobAt toolchain distinct, entries_jobAt toolchain distinct] at hblurs
  rcases hblurs with h | h
  · exact not_blurs setOff hn hm h
  · exact not_blurs setOff hm hn h

end Matrix

def patternAxes : List Axis :=
  [⟨"features", ["os", "alloc, os", "mode=fast"]⟩, ⟨"mode", ["debug", "fast, mode=debug"]⟩]

theorem name_patternAxes : ∃ jobs, expand patternAxes none = .ok jobs ∧ ∃ j k, j ∈ jobs ∧ k ∈ jobs ∧ j ≠ k ∧
    patternAxes.IsChain Axis.IsSetOffFrom ∧ j.name ≠ k.name := by
  have expands : expand patternAxes none = .ok ((List.range 6).map (jobAt patternAxes none)) :=
    expand_eq_ok (by decide) (by decide)
  have hj : jobAt patternAxes none 2 ∈ (List.range 6).map (jobAt patternAxes none) :=
    List.mem_map_of_mem (by decide)
  have hk : jobAt patternAxes none 1 ∈ (List.range 6).map (jobAt patternAxes none) :=
    List.mem_map_of_mem (by decide)
  have setOff : patternAxes.IsChain Axis.IsSetOffFrom := by decide
  exact ⟨_, expands, _, _, hj, hk, by decide, setOff,
    (name_eq_iff_blurs (by decide) expands hj hk (by decide)).2 setOff⟩

def blurredAxes : List Axis :=
  [⟨"features", ["os", "os, mode=fast"]⟩, ⟨"mode", ["debug", "fast, mode=debug"]⟩]

theorem not_named_apart : ¬ ∀ (axes : List Axis) (toolchain : Option ToolchainAxis) (jobs : List Job),
    (axes.map Axis.name).Nodup → expand axes toolchain = .ok jobs →
      ∀ j ∈ jobs, ∀ k ∈ jobs, j ≠ k → j.name ≠ k.name := by
  intro h
  have expands : expand blurredAxes none = .ok ((List.range 4).map (jobAt blurredAxes none)) :=
    expand_eq_ok (by decide) (by decide)
  exact h blurredAxes none _ (by decide) expands (jobAt blurredAxes none 1) (List.mem_map_of_mem (by decide))
    (jobAt blurredAxes none 2) (List.mem_map_of_mem (by decide)) (by decide) (by decide)

end JobMatrix
