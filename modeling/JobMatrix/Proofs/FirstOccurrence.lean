import JobMatrix.Text.Search
import Mathlib.Data.List.Infix

/-!
Where a mark is found first. A text is cut in two at a mark exactly if no occurrence of the mark ends before that
one does, and a mark that occurs in a text of two parts is in one of them or crosses from one to the other.
-/
namespace JobMatrix.Text
variable {mark s before after a b : List Char}

theorem cut?_eq_none_iff (hm : mark ≠ []) : cut? mark s = none ↔ ¬ mark <:+: s := by
  induction s with
  | nil => simp [cut?, hm]
  | cons c s ih =>
    by_cases hp : mark <+: c :: s
    · simp [cut?, hp, hp.isInfix]
    · simp [cut?, hp, ih, List.infix_cons_iff]

theorem append_dropLast_prefix (before mark after : List Char) :
    before ++ mark.dropLast <+: before ++ mark ++ after := by
  rw [List.append_assoc]
  exact (List.prefix_append_right_inj before).mpr ((List.dropLast_prefix mark).trans (List.prefix_append mark after))

theorem not_infix_of_cut? (hm : mark ≠ []) (h : cut? mark s = some (before, after)) :
    ¬ mark <:+: before ++ mark.dropLast := by
  have hpos := List.length_pos_iff.mpr hm
  induction s generalizing before with
  | nil => simp [cut?] at h
  | cons c s ih =>
    rw [cut?] at h
    split at h
    · obtain ⟨rfl, -⟩ : [] = before ∧ (c :: s).drop mark.length = after := by simpa using h
      intro hi
      have hlength := hi.length_le
      simp only [List.nil_append, List.length_dropLast] at hlength
      omega
    · next hnot =>
      obtain ⟨⟨b, rest⟩, hcut, heq⟩ := Option.map_eq_some_iff.mp h
      obtain ⟨rfl, rfl⟩ : c :: b = before ∧ rest = after := by simpa using heq
      intro hi
      rcases List.infix_cons_iff.mp hi with hp | hi
      · have hbegin := append_dropLast_prefix (c :: b) mark rest
        have hs : c :: s = c :: b ++ mark ++ rest := congrArg (c :: ·) (cut?_eq_append hcut)
        exact hnot (List.isPrefixOf_iff_prefix.mpr (hs ▸ hp.trans hbegin))
      · exact ih hcut hi

theorem cut?_append (hm : mark ≠ []) (first : ¬ mark <:+: before ++ mark.dropLast) (after : List Char) :
    cut? mark (before ++ mark ++ after) = some (before, after) := by
  have hpos := List.length_pos_iff.mpr hm
  induction before with
  | nil =>
    obtain ⟨c, m, rfl⟩ := List.exists_cons_of_ne_nil hm
    simp [cut?]
  | cons c before ih =>
    have hlater : ¬ mark <:+: before ++ mark.dropLast := fun hi => first (List.infix_cons hi)
    have hnow : ¬ mark.isPrefixOf (c :: before ++ mark ++ after) = true := by
      intro hp
      have hbegin := append_dropLast_prefix (c :: before) mark after
      have hlength : mark.length ≤ (c :: before ++ mark.dropLast).length := by
        simp only [List.length_append, List.length_cons, List.length_dropLast]
        omega
      exact first (List.prefix_of_prefix_length_le (List.isPrefixOf_iff_prefix.mp hp) hbegin hlength).isInfix
    simp only [List.cons_append] at hnow ⊢
    rw [cut?, if_neg hnow, ih hlater]
    rfl

theorem append_inj_of_first {before' after' : List Char} (hm : mark ≠ [])
    (first : ¬ mark <:+: before ++ mark.dropLast) (first' : ¬ mark <:+: before' ++ mark.dropLast)
    (same : before ++ mark ++ after = before' ++ mark ++ after') : before = before' ∧ after = after' := by
  have hcut := cut?_append hm first after
  rw [same, cut?_append hm first'] at hcut
  exact Prod.mk.inj (Option.some.inj hcut.symm)

/-- The mark occurs in a text of two parts at a place where it begins in the one and ends in the other. -/
def Crosses (mark a b : List Char) : Prop :=
  ∃ n < mark.length, 0 < n ∧ mark.take n <:+ a ∧ mark.drop n <+: b

instance (mark a b : List Char) : Decidable (Crosses mark a b) :=
  inferInstanceAs (Decidable (∃ n < mark.length, 0 < n ∧ mark.take n <:+ a ∧ mark.drop n <+: b))

theorem infix_append_iff_crosses : mark <:+: a ++ b ↔ mark <:+: a ∨ mark <:+: b ∨ Crosses mark a b := by
  rw [List.infix_append_iff]
  constructor
  · rintro (ha | hb | ⟨u, v, rfl, hu, hv⟩)
    · exact .inl ha
    · exact .inr (.inl hb)
    · by_cases hu' : u = []
      · subst hu'
        exact .inr (.inl hv.isInfix)
      · by_cases hv' : v = []
        · subst hv'
          exact .inl (by simpa using hu.isInfix)
        · have hupos := List.length_pos_iff.mpr hu'
          have hvpos := List.length_pos_iff.mpr hv'
          refine .inr (.inr ⟨u.length, ?_, hupos, by simpa using hu, by simpa using hv⟩)
          simp only [List.length_append]
          omega
  · rintro (ha | hb | ⟨n, -, -, hu, hv⟩)
    · exact .inl ha
    · exact .inr (.inl hb)
    · exact .inr (.inr ⟨_, _, (List.take_append_drop n mark).symm, hu, hv⟩)

theorem prefix_or_crosses (ha : a ≠ []) (h : mark <+: a ++ b) : mark <+: a ∨ Crosses mark a b := by
  by_cases hl : mark.length ≤ a.length
  · exact .inl (List.prefix_of_prefix_length_le h (List.prefix_append a b) hl)
  · obtain ⟨v, rfl⟩ := List.prefix_of_prefix_length_le (List.prefix_append a b) h (by omega)
    have hv : v <+: b := (List.prefix_append_right_inj a).mp h
    refine .inr ⟨a.length, by omega, List.length_pos_iff.mpr ha, ?_, ?_⟩
    · simp
    · simpa using hv

theorem Crosses.of_suffix (h : Crosses mark a b) {whole : List Char} (hs : a <:+ whole) : Crosses mark whole b := by
  obtain ⟨n, hn, hpos, hu, hv⟩ := h
  exact ⟨n, hn, hpos, hu.trans hs, hv⟩

theorem Crosses.of_prefix (h : Crosses mark a b) {whole : List Char} (hp : b <+: whole) : Crosses mark a whole := by
  obtain ⟨n, hn, hpos, hu, hv⟩ := h
  exact ⟨n, hn, hpos, hu, hv.trans hp⟩

theorem not_crosses_cons {c : Char} (absent : c ∉ mark) (a b : List Char) : ¬ Crosses mark a (c :: b) := by
  rintro ⟨n, hn, -, -, hv⟩
  obtain ⟨d, later, hd⟩ := List.exists_cons_of_ne_nil (l := mark.drop n) (by simpa using hn)
  rw [hd] at hv
  have hc : c = d := (List.cons_prefix_cons.mp hv).1.symm
  have hm : d ∈ mark.drop n := hd ▸ List.mem_cons_self
  exact absent (hc ▸ List.mem_of_mem_drop hm)

end JobMatrix.Text
