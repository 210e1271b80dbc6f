import JobMatrix.Proofs.Replacement
import JobMatrix.Settings

/-!
Which tokens a mask hides. The stars that are put in can join what stands beside them, so the token may come up
again in the masked text. It never does exactly if the token neither begins nor ends with a star and does not
contain the mask: an occurrence then cannot reach into the stars and stands where one stood before.
-/
namespace JobMatrix
open Text
variable {token s out p : List Char}

def stars : List Char := maskText.toList

theorem stars_eq : stars = ['*', '*', '*'] := by decide

/-- A token that cannot come up again when it is masked. -/
structure IsErasable (token : String) : Prop where
  head : token.toList.head? ≠ some '*'
  last : token.toList.getLast? ≠ some '*'
  inner : ¬ stars <:+: token.toList

theorem not_prefix_stars_append (hp : p ≠ []) (last : p.getLast? ≠ some '*') (inner : ¬ stars <:+: p) :
    ¬ p <+: stars ++ out := by
  intro h
  by_cases hl : p.length ≤ stars.length
  · have hstars : p <+: stars := List.prefix_of_prefix_length_le h (List.prefix_append stars out) hl
    have hmem : p.getLast hp ∈ stars := hstars.subset (List.getLast_mem hp)
    have hstar : p.getLast hp = '*' := by simpa [stars_eq] using hmem
    exact last (by rw [List.getLast?_eq_some_getLast hp, hstar])
  · have hpre : stars <+: p := List.prefix_of_prefix_length_le (List.prefix_append stars out) h (by omega)
    exact inner hpre.isInfix

theorem prefix_of_replaced (h : Replaced token stars s out) (hp : p <+: out) (last : p.getLast? ≠ some '*')
    (inner : ¬ stars <:+: p) : p <+: s := by
  induction h generalizing p with
  | nil => exact hp
  | @keep c s out absent later ih =>
    cases p with
    | nil => exact List.nil_prefix
    | cons d p =>
      obtain ⟨rfl, htail⟩ := List.cons_prefix_cons.mp hp
      refine List.cons_prefix_cons.mpr ⟨rfl, ih htail ?_ fun hi => inner (List.infix_cons hi)⟩
      cases p with
      | nil => simp
      | cons e p => simpa using last
  | @put s out later ih =>
    by_cases hnil : p = []
    · exact hnil ▸ List.nil_prefix
    · exact absurd hp (not_prefix_stars_append hnil last inner)

theorem not_infix_of_replaced (hne : token ≠ []) (head : token.head? ≠ some '*')
    (last : token.getLast? ≠ some '*') (inner : ¬ stars <:+: token) (h : Replaced token stars s out) :
    ¬ token <:+: out := by
  induction h with
  | nil => exact fun hi => hne (List.eq_nil_of_infix_nil hi)
  | @keep c s out absent later ih =>
    intro hi
    rcases List.infix_cons_iff.mp hi with hp | hi
    · exact absent (prefix_of_replaced (.keep absent later) hp last inner)
    · exact ih hi
  | @put s out later ih =>
    have hstar : ∀ rest, ¬ token <+: '*' :: rest := by
      intro rest hp
      obtain ⟨c, t, rfl⟩ := List.exists_cons_of_ne_nil hne
      exact head (by simp [(List.cons_prefix_cons.mp hp).1])
    rw [stars_eq]
    simpa [List.infix_cons_iff, hstar] using ih

/-- A token that stands in a text with its own ends around it, and is found before its place, holds what it has
between these ends at that earlier place too. -/
theorem prefix_drop_of_earlier {u x v : List Char} {i : Nat} (hi : i ≤ u.length)
    (h : u ++ x ++ v <+: (u ++ (u ++ x ++ v) ++ v).drop i) : x <+: (u ++ x ++ v).drop i := by
  have hleft : (u ++ x ++ v).drop u.length = x ++ v := by
    rw [List.append_assoc, List.drop_left]
  have hright : ((u ++ (u ++ x ++ v) ++ v).drop i).drop u.length = (u ++ x ++ v).drop i ++ v := by
    rw [List.drop_drop, Nat.add_comm, ← List.drop_drop, List.append_assoc u, List.drop_left,
      List.drop_append_of_le_length (by simp only [List.length_append]; omega)]
  have hshift : x ++ v <+: (u ++ x ++ v).drop i ++ v := by
    rw [← hleft, ← hright]
    exact h.drop u.length
  refine List.prefix_of_prefix_length_le ((List.prefix_append x v).trans hshift) (List.prefix_append _ v) ?_
  simp only [List.length_drop, List.length_append]
  omega

structure ComesUp (token u v : List Char) : Prop where
  masked : replaceAll token stars (u ++ token ++ v) = u ++ stars ++ v
  again : token <:+: u ++ stars ++ v

theorem comesUp_between_ends {u x v : List Char} (hx : x ≠ [])
    (first : ∀ i < u.length, ¬ u ++ x ++ v <+: (u ++ (u ++ x ++ v) ++ v).drop i)
    (again : u ++ x ++ v <:+: u ++ stars ++ v) : ComesUp (u ++ x ++ v) u v := by
  have hpos := List.length_pos_iff.mpr hx
  have hne : u ++ x ++ v ≠ [] := by simp [hx]
  have hrest : ¬ u ++ x ++ v <:+: v := by
    intro hi
    have hl := hi.length_le
    simp only [List.length_append] at hl
    omega
  refine ⟨?_, again⟩
  rw [replaceAll_of_first hne first, replaceAll_eq_self hrest]

theorem comesUp_of_head (h : token.head? = some '*') : ∃ u v, ComesUp token u v := by
  obtain ⟨w, rfl⟩ := List.head?_eq_some_iff.mp h
  have hagain : [] ++ ['*'] ++ w <:+: [] ++ stars ++ w := ⟨['*', '*'], [], by simp [stars_eq]⟩
  exact ⟨[], w, comesUp_between_ends (by simp) (by simp) hagain⟩

theorem comesUp_of_last (head : token.head? ≠ some '*') (h : token.getLast? = some '*') :
    ∃ u v, ComesUp token u v := by
  obtain ⟨w, rfl⟩ := List.getLast?_eq_some_iff.mp h
  have hfirst : ∀ i < w.length, ¬ w ++ ['*'] ++ [] <+: (w ++ (w ++ ['*'] ++ []) ++ []).drop i := by
    -- Found earlier, the token would have a star at that place, and would begin with it.
    intro i hi hp
    obtain ⟨rest, hstar⟩ := prefix_drop_of_earlier (Nat.le_of_lt hi) hp
    obtain ⟨later, hlater⟩ := hp
    have hat : w[i]? = some '*' := by
      have hd := congrArg List.head? hstar
      simpa [List.getElem?_append_left hi] using hd.symm
    have hhead := congrArg List.head? hlater
    refine head ?_
    simpa [List.getElem?_append_left hi, hat] using hhead
  have hagain : w ++ ['*'] ++ [] <:+: w ++ stars ++ [] := ⟨[], ['*', '*'], by simp [stars_eq]⟩
  have hcomes := comesUp_between_ends (by simp) hfirst hagain
  rw [List.append_nil] at hcomes
  exact ⟨w, [], hcomes⟩

theorem comesUp_of_inner (h : stars <:+: token) : ∃ u v, ComesUp token u v := by
  obtain ⟨u, v, rfl, hfirst⟩ := exists_first_of_infix h
  refine ⟨u, v, comesUp_between_ends (by simp [stars_eq]) (fun i hi hp => ?_) (List.infix_refl _)⟩
  exact hfirst i hi (prefix_drop_of_earlier (Nat.le_of_lt hi) hp)

theorem exists_comesUp {token : String} (h : ¬ IsErasable token) : ∃ u v, ComesUp token.toList u v := by
  by_cases head : token.toList.head? = some '*'
  · exact comesUp_of_head head
  · by_cases last : token.toList.getLast? = some '*'
    · exact comesUp_of_last head last
    · by_cases inner : stars <:+: token.toList
      · exact comesUp_of_inner inner
      · exact absurd ⟨head, last, inner⟩ h

theorem toList_maskWith {token : String} (ht : token ≠ "") (text : String) :
    (maskWith token text).toList = replaceAll token.toList stars text.toList := by
  simp [maskWith, ht, stars]

theorem IsErasable.not_infix_maskWith {token : String} (h : IsErasable token) (ht : token ≠ "") (text : String) :
    ¬ token.toList <:+: (maskWith token text).toList := by
  have hne : token.toList ≠ [] := by simpa using ht
  rw [toList_maskWith ht]
  exact not_infix_of_replaced hne h.head h.last h.inner (replaced_replaceAll hne text.toList)

theorem exists_infix_maskWith {token : String} (h : ¬ IsErasable token) (ht : token ≠ "") :
    ∃ text, token.toList <:+: (maskWith token text).toList := by
  obtain ⟨u, v, comes⟩ := exists_comesUp h
  refine ⟨String.ofList (u ++ token.toList ++ v), ?_⟩
  rw [toList_maskWith ht, String.toList_ofList, comes.masked]
  exact comes.again

example : maskWith "a*" "aa*" = "a***" := by decide

end JobMatrix
