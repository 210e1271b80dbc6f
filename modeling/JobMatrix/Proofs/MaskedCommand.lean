import JobMatrix.Proofs.TokenMask
import JobMatrix.Template
import Mathlib.Data.List.Infix

/-!
The command that is shown and the command that is run. The one has the mask in the place of the token before it is
masked, the other has the token there. The two are masked alike if no occurrence of the token reaches into what is
put in, which is so for every command exactly if the token does not overlap itself and does not come up again.
-/
namespace JobMatrix
open Text
variable {token : String} {a b u v : List Char}

/-- No proper part of the token both begins and ends it. -/
def IsUnbordered (token : String) : Prop :=
  ∀ border : List Char, border ≠ [] → border ≠ token.toList → border <+: token.toList → ¬ border <:+ token.toList

theorem isUnbordered_iff : IsUnbordered token ↔
    ∀ border ∈ token.toList.inits, border ≠ [] → border ≠ token.toList → ¬ border <:+ token.toList := by
  simp only [IsUnbordered, List.mem_inits]
  exact ⟨fun h border hp hne hproper => h border hne hproper hp, fun h border hne hproper hp => h border hp hne hproper⟩

instance : DecidablePred IsUnbordered := fun _ => decidable_of_iff _ isUnbordered_iff.symm

theorem IsUnbordered.not_crosses (h : IsUnbordered token) (a b : List Char) :
    ¬ Crosses token.toList a (token.toList ++ b) := by
  rintro ⟨n, hn, hpos, -, hp⟩
  have hlength : (token.toList.drop n).length < token.toList.length := by
    simp only [List.length_drop]
    omega
  have hne : token.toList.drop n ≠ [] := by simpa using hn
  have hproper : token.toList.drop n ≠ token.toList := fun heq => by rw [heq] at hlength; omega
  have hprefix : token.toList.drop n <+: token.toList :=
    List.prefix_of_prefix_length_le hp (List.prefix_append _ b) (Nat.le_of_lt hlength)
  exact h _ hne hproper hprefix (List.drop_suffix n _)

theorem IsErasable.not_crosses_stars (h : IsErasable token) (a b : List Char) :
    ¬ Crosses token.toList a (stars ++ b) := by
  rintro ⟨n, hn, hpos, -, hp⟩
  have hne : token.toList.drop n ≠ [] := by simpa using hn
  have hlast : (token.toList.drop n).getLast? ≠ some '*' := by
    rw [List.getLast?_drop, if_neg (by omega)]
    exact h.last
  have hinner : ¬ stars <:+: token.toList.drop n := fun hi => h.inner (hi.trans (List.drop_suffix n _).isInfix)
  exact not_prefix_stars_append hne hlast hinner hp

theorem IsErasable.replaceAll_around (h : IsErasable token) (ht : token.toList ≠ []) (a b : List Char) :
    replaceAll token.toList stars (a ++ (stars ++ b)) =
      replaceAll token.toList stars a ++ (stars ++ replaceAll token.toList stars b) := by
  have hstar : ∀ rest, ¬ token.toList <+: '*' :: rest := by
    intro rest hp
    obtain ⟨c, t, hc⟩ := List.exists_cons_of_ne_nil ht
    rw [hc, List.cons_prefix_cons] at hp
    exact h.head (by simp [hc, hp.1])
  rw [replaceAll_append ht (h.not_crosses_stars a b)]
  simp [stars_eq, replaceAll_cons (hstar _)]

theorem IsUnbordered.replaceAll_around (h : IsUnbordered token) (ht : token.toList ≠ []) (a b : List Char) :
    replaceAll token.toList stars (a ++ (token.toList ++ b)) =
      replaceAll token.toList stars a ++ (stars ++ replaceAll token.toList stars b) := by
  rw [replaceAll_append ht (h.not_crosses a b), replaceAll_mark_append ht]

/-- A token that overlaps itself is found before the place where it was put in. -/
theorem exists_masked_earlier (h : ¬ IsUnbordered token) (erasable : IsErasable token) (ht : token.toList ≠ []) :
    ∃ u, replaceAll token.toList stars (u ++ (stars ++ [])) ≠
      replaceAll token.toList stars (u ++ (token.toList ++ [])) := by
  obtain ⟨border, hne, hproper, ⟨y, hy⟩, ⟨u, hu⟩⟩ :
      ∃ border, border ≠ [] ∧ border ≠ token.toList ∧ border <+: token.toList ∧ border <:+ token.toList := by
    simpa [IsUnbordered] using h
  have hsplit : u ++ (token.toList ++ []) = token.toList ++ y := by
    calc
      u ++ (token.toList ++ []) = u ++ (border ++ y) := by rw [hy, List.append_nil]
      _ = u ++ border ++ y := (List.append_assoc u border y).symm
      _ = token.toList ++ y := by rw [hu]
  have hborder := List.length_pos_iff.mpr hne
  have hleft := congrArg List.length hu
  have hright := congrArg List.length hy
  simp only [List.length_append] at hleft hright
  have hu' : ¬ token.toList <:+: u := fun hi => by have hle := hi.length_le; omega
  have hy' : ¬ token.toList <:+: y := fun hi => by have hle := hi.length_le; omega
  -- The token behind `u` is found where `u` begins, but what is shown has stars behind `u` alone.
  refine ⟨u, ?_⟩
  rw [erasable.replaceAll_around ht, hsplit, replaceAll_mark_append ht, replaceAll_eq_self hy', replaceAll_eq_self hu']
  intro same
  cases u with
  | nil => exact hproper hu
  | cons c u =>
    have hstar : c = '*' := by simpa [stars_eq] using congrArg List.head? same
    exact erasable.head (by rw [← hu, hstar]; rfl)

theorem exists_masked_otherwise (hmask : token ≠ maskText) (ht : token.toList ≠ [])
    (h : ¬ (IsUnbordered token ∧ IsErasable token)) :
    ∃ u v, replaceAll token.toList stars (u ++ (stars ++ v)) ≠
      replaceAll token.toList stars (u ++ (token.toList ++ v)) := by
  by_cases erasable : IsErasable token
  · have bordered : ¬ IsUnbordered token := fun unbordered => h ⟨unbordered, erasable⟩
    obtain ⟨u, hu⟩ := exists_masked_earlier bordered erasable ht
    exact ⟨u, [], hu⟩
  · obtain ⟨u, v, comes⟩ := exists_comesUp erasable
    have hstars : token.toList ≠ stars := fun heq => hmask (String.toList_inj.mp heq)
    refine ⟨u, v, ?_⟩
    rw [← List.append_assoc, ← List.append_assoc, comes.masked]
    exact replaceAll_ne_self ht hstars comes.again

namespace Template
variable {job : Job} {settings : Settings} {stepEnv : Table String}

theorem shownValueOf_of_ne {p : Placeholder} (h : p ≠ .token) :
    shownValueOf job settings stepEnv p = valueOf job settings stepEnv p := by
  cases p with
  | token => exact absurd rfl h
  | _ => rfl

theorem shownValueOf_eq (h : settings.token = none ∨ settings.token = some maskText) :
    shownValueOf job settings stepEnv = valueOf job settings stepEnv := by
  funext p
  by_cases hp : p = .token
  · subst hp
    rcases h with h | h <;> simp [shownValueOf, valueOf, h]
  · exact shownValueOf_of_ne hp

theorem replaceAll_shown_eq (unbordered : IsUnbordered token) (erasable : IsErasable token)
    (ht : token.toList ≠ []) (hsettings : settings.token = some token) (job : Job) (stepEnv : Table String)
    (segments : List Segment) (a : List Char) :
    replaceAll token.toList stars (a ++ (render (shownValueOf job settings stepEnv) segments).toList) =
      replaceAll token.toList stars (a ++ (render (valueOf job settings stepEnv) segments).toList) := by
  induction segments generalizing a with
  | nil => rfl
  | cons segment rest ih =>
    cases segment with
    | literal text =>
      simp only [render, String.toList_append, ← List.append_assoc]
      exact ih _
    | placeholder p =>
      by_cases hp : p = .token
      · subst hp
        have hshown : (shownValueOf job settings stepEnv .token).toList = stars := by
          simp [shownValueOf, hsettings, stars]
        have hvalue : (valueOf job settings stepEnv .token).toList = token.toList := by simp [valueOf, hsettings]
        simp only [render, String.toList_append, hshown, hvalue]
        have hrest := ih []
        simp only [List.nil_append] at hrest
        rw [erasable.replaceAll_around ht, unbordered.replaceAll_around ht, hrest]
      · simp only [render, String.toList_append, shownValueOf_of_ne hp, ← List.append_assoc]
        exact ih _

theorem mask_shown_eq (unbordered : IsUnbordered token) (erasable : IsErasable token) (nonempty : token ≠ "")
    (hsettings : settings.token = some token) (t : Template) :
    t.display job settings stepEnv = settings.mask (t.resolve job settings stepEnv) := by
  have ht : token.toList ≠ [] := by simpa using nonempty
  have hsegments := replaceAll_shown_eq unbordered erasable ht hsettings job stepEnv t.segments []
  refine String.toList_inj.mp ?_
  simpa only [display, resolve, Settings.mask, hsettings, toList_maskWith nonempty, List.nil_append] using hsegments

def between : Template := ⟨[.placeholder (.env "LEFT"), .placeholder .token, .placeholder (.env "RIGHT")]⟩

theorem parse_between :
    parse "$\x7b\x7b env.LEFT \x7d\x7d$\x7b\x7b secrets.token \x7d\x7d$\x7b\x7b env.RIGHT \x7d\x7d" = .ok between := by
  decide +kernel

/-- The command that is shown is always the command that is run with the token masked, exactly if the token is the
mask, or no proper part both begins and ends it and it cannot come up again. Without a token the two are one. -/
theorem display_eq_mask_resolve_iff (nonempty : token ≠ "") :
    ((∀ (source : String) (t : Template), parse source = .ok t →
        ∀ (job : Job) (settings : Settings) (stepEnv : Table String), settings.token = some token →
          t.display job settings stepEnv = settings.mask (t.resolve job settings stepEnv)) ↔
      token = maskText ∨ IsUnbordered token ∧ IsErasable token) ∧
    ∀ (t : Template) (job : Job) (settings : Settings) (stepEnv : Table String), settings.token = none →
      t.display job settings stepEnv = t.resolve job settings stepEnv := by
  have ht : token.toList ≠ [] := by simpa using nonempty
  refine ⟨⟨fun agree => ?_, ?_⟩, ?_⟩
  · by_contra h
    obtain ⟨hmask, hnot⟩ := not_or.mp h
    obtain ⟨u, v, differ⟩ := exists_masked_otherwise hmask ht hnot
    have hagree := agree _ _ parse_between ⟨0, .empty, .stable⟩ ((Settings.initial "/work").withToken token)
      (.ofList [("LEFT", String.ofList u), ("RIGHT", String.ofList v)]) rfl
    have htexts := congrArg String.toList hagree
    refine differ ?_
    simpa [display, resolve, between, render, shownValueOf, valueOf, Settings.mask, Settings.withToken,
      toList_maskWith nonempty, stars, Table.ofList, Table.get?_insert] using htexts
  · rintro (rfl | ⟨unbordered, erasable⟩) source t - job settings stepEnv hsettings
    · rw [display, shownValueOf_eq (.inr hsettings), resolve]
    · exact mask_shown_eq unbordered erasable nonempty hsettings t
  · intro t job settings stepEnv hsettings
    rw [display, shownValueOf_eq (.inl hsettings), resolve, Settings.mask, hsettings]

theorem display_plain_token :
    "s3cret" ≠ "" ∧ ∀ (source : String) (t : Template), parse source = .ok t →
      ∀ (job : Job) (settings : Settings) (stepEnv : Table String), settings.token = some "s3cret" →
        t.display job settings stepEnv = settings.mask (t.resolve job settings stepEnv) := by
  have unbordered : IsUnbordered "s3cret" := by decide
  have erasable : IsErasable "s3cret" := ⟨by decide, by decide, by decide⟩
  exact ⟨by decide, (display_eq_mask_resolve_iff (by decide)).1.mpr (.inr ⟨unbordered, erasable⟩)⟩

end Template
end JobMatrix
