import JobMatrix.Proofs.FirstOccurrence

/-!
Replacement from the left, seen as a derivation: a character stays where no occurrence of the mark begins, and an
occurrence is replaced as a whole.
-/
namespace JobMatrix.Text
variable {mark substitute s out : List Char} {c : Char}

theorem replaceFrom_eq_drop (mark substitute : List Char) (skip : Nat) (s : List Char) :
    replaceFrom mark substitute skip s = replaceAll mark substitute (s.drop skip) := by
  induction skip generalizing s with
  | zero => rfl
  | succ skip ih =>
    cases s with
    | nil => rfl
    | cons c s => exact ih s

theorem replaceAll_cons (h : ¬ mark <+: c :: s) :
    replaceAll mark substitute (c :: s) = c :: replaceAll mark substitute s := by
  have hp : ¬ mark.isPrefixOf (c :: s) = true := fun hp => h (List.isPrefixOf_iff_prefix.mp hp)
  rw [replaceAll, replaceFrom, if_neg hp]
  rfl

theorem replaceAll_mark_append (hm : mark ≠ []) (s : List Char) :
    replaceAll mark substitute (mark ++ s) = substitute ++ replaceAll mark substitute s := by
  obtain ⟨c, m, rfl⟩ := List.exists_cons_of_ne_nil hm
  have hp : (c :: m).isPrefixOf (c :: (m ++ s)) = true :=
    List.isPrefixOf_iff_prefix.mpr (List.prefix_append (c :: m) s)
  rw [List.cons_append, replaceAll, replaceFrom, if_pos hp, replaceFrom_eq_drop]
  simp

/-- The steps by which a text becomes another when a mark is replaced. -/
inductive Replaced (mark substitute : List Char) : List Char → List Char → Prop
  | nil : Replaced mark substitute [] []
  | keep {c : Char} {s out : List Char} (absent : ¬ mark <+: c :: s) (later : Replaced mark substitute s out) :
      Replaced mark substitute (c :: s) (c :: out)
  | put {s out : List Char} (later : Replaced mark substitute s out) :
      Replaced mark substitute (mark ++ s) (substitute ++ out)

theorem replaced_replaceAll (hm : mark ≠ []) (s : List Char) :
    Replaced mark substitute s (replaceAll mark substitute s) := by
  induction hn : s.length using Nat.strongRecOn generalizing s with
  | _ n ih =>
    subst hn
    by_cases hp : mark <+: s
    · obtain ⟨later, rfl⟩ := hp
      have hpos := List.length_pos_iff.mpr hm
      rw [replaceAll_mark_append hm]
      exact .put (ih later.length (by simp; omega) later rfl)
    · cases s with
      | nil => exact .nil
      | cons c s =>
        rw [replaceAll_cons hp]
        exact .keep hp (ih s.length (by simp) s rfl)

theorem replaceAll_eq_self (h : ¬ mark <:+: s) : replaceAll mark substitute s = s := by
  induction s with
  | nil => rfl
  | cons c s ih =>
    obtain ⟨hp, hs⟩ := not_or.mp (mt List.infix_cons_iff.mpr h)
    rw [replaceAll_cons hp, ih hs]

theorem replaceAll_of_first (hm : mark ≠ []) {before after : List Char}
    (first : ∀ i < before.length, ¬ mark <+: (before ++ mark ++ after).drop i) :
    replaceAll mark substitute (before ++ mark ++ after) =
      before ++ substitute ++ replaceAll mark substitute after := by
  induction before with
  | nil => exact replaceAll_mark_append hm after
  | cons c before ih =>
    have hlater : ∀ i < before.length, ¬ mark <+: (before ++ mark ++ after).drop i := fun i hi =>
      first (i + 1) (by simpa using hi)
    have hnow : ¬ mark <+: c :: (before ++ mark ++ after) := first 0 (by simp)
    simp only [List.cons_append, replaceAll_cons hnow, ih hlater]

theorem exists_first_of_infix (h : mark <:+: s) :
    ∃ before after, s = before ++ mark ++ after ∧ ∀ i < before.length, ¬ mark <+: s.drop i := by
  induction s with
  | nil => exact ⟨[], [], by simpa using List.eq_nil_of_infix_nil h, by simp⟩
  | cons c s ih =>
    by_cases hp : mark <+: c :: s
    · obtain ⟨after, ha⟩ := hp
      exact ⟨[], after, by simp [ha], by simp⟩
    · obtain ⟨before, after, hs, hfirst⟩ := ih ((List.infix_cons_iff.mp h).resolve_left hp)
      refine ⟨c :: before, after, by simp [hs], ?_⟩
      intro i hi
      cases i with
      | zero => exact hp
      | succ i => exact hfirst i (by simpa using hi)

theorem Replaced.replaceAll_append {a b : List Char} (h : Replaced mark substitute a out) (hm : mark ≠ [])
    (apart : ¬ Crosses mark a b) :
    replaceAll mark substitute (a ++ b) = out ++ replaceAll mark substitute b := by
  induction h with
  | nil => rfl
  | @keep c s out absent later ih =>
    have hnow : ¬ mark <+: c :: s ++ b := by
      intro hp
      rcases prefix_or_crosses (List.cons_ne_nil c s) hp with hp | hcross
      · exact absent hp
      · exact apart hcross
    have hlater : ¬ Crosses mark s b := fun hcross => apart (hcross.of_suffix (List.suffix_cons c s))
    rw [List.cons_append] at hnow ⊢
    rw [replaceAll_cons hnow, ih hlater, List.cons_append]
  | @put s out later ih =>
    have hlater : ¬ Crosses mark s b := fun hcross => apart (hcross.of_suffix (List.suffix_append mark s))
    rw [List.append_assoc, replaceAll_mark_append hm, ih hlater, List.append_assoc]

/-- Where no occurrence of the mark crosses from one text to the next, each is replaced on its own. -/
theorem replaceAll_append {a b : List Char} (hm : mark ≠ []) (apart : ¬ Crosses mark a b) :
    replaceAll mark substitute (a ++ b) = replaceAll mark substitute a ++ replaceAll mark substitute b :=
  (replaced_replaceAll hm a).replaceAll_append hm apart

theorem replaceAll_append_cons (hm : mark ≠ []) (absent : c ∉ mark) (a b : List Char) :
    replaceAll mark substitute (a ++ c :: b) =
      replaceAll mark substitute a ++ c :: replaceAll mark substitute b := by
  have hnow : ¬ mark <+: c :: b := by
    intro hp
    obtain ⟨d, rest, rfl⟩ := List.exists_cons_of_ne_nil hm
    exact absent (List.mem_cons.mpr (.inl (List.cons_prefix_cons.mp hp).1.symm))
  rw [replaceAll_append hm (not_crosses_cons absent a b), replaceAll_cons hnow]

theorem Replaced.length_le (h : Replaced mark substitute s out) (hl : mark.length ≤ substitute.length) :
    s.length ≤ out.length := by
  induction h with
  | nil => exact Nat.le_refl 0
  | keep absent later ih => simpa using ih
  | put later ih =>
    simp only [List.length_append]
    omega

theorem Replaced.length_ge (h : Replaced mark substitute s out) (hl : substitute.length ≤ mark.length) :
    out.length ≤ s.length := by
  induction h with
  | nil => exact Nat.le_refl 0
  | keep absent later ih => simpa using ih
  | put later ih =>
    simp only [List.length_append]
    omega

theorem replaceAll_ne_self (hm : mark ≠ []) (hne : mark ≠ substitute) (h : mark <:+: s) :
    replaceAll mark substitute s ≠ s := by
  obtain ⟨before, after, rfl, first⟩ := exists_first_of_infix h
  rw [replaceAll_of_first hm first]
  intro same
  have hlater : Replaced mark substitute after (replaceAll mark substitute after) := replaced_replaceAll hm after
  have hrest : substitute ++ replaceAll mark substitute after = mark ++ after := by
    simpa only [List.append_assoc, List.append_cancel_left_eq] using same
  -- Later replacements change the length in the same direction as this one, so the two cannot make up for it.
  have hlength := congrArg List.length hrest
  simp only [List.length_append] at hlength
  rcases Nat.lt_trichotomy mark.length substitute.length with hlt | heq | hgt
  · have hle := hlater.length_le (Nat.le_of_lt hlt)
    omega
  · exact hne (List.append_inj_left hrest heq.symm).symm
  · have hge := hlater.length_ge (Nat.le_of_lt hgt)
    omega

end JobMatrix.Text
