/-!
Finding a mark in a text, and putting a substitute for every occurrence of one. Texts are lists of
characters here. Main statements: a cut loses nothing, so what follows it is shorter than the text; and items are
joined as `String.intercalate` joins them.
-/
namespace JobMatrix.Text

/-- What stands before the first occurrence of `mark` and what stands after it. -/
def cut? (mark : List Char) : List Char → Option (List Char × List Char)
  | [] => none
  | c :: s =>
    if mark.isPrefixOf (c :: s) then some ([], (c :: s).drop mark.length)
    else (cut? mark s).map fun (before, after) => (c :: before, after)

def occursIn (mark : List Char) : List Char → Bool
  | [] => mark.isEmpty
  | c :: s => mark.isPrefixOf (c :: s) || occursIn mark s

/-- Replacement from the left, the first `skip` characters being part of an occurrence already replaced. -/
def replaceFrom (mark substitute : List Char) : Nat → List Char → List Char
  | _, [] => []
  | skip + 1, _ :: s => replaceFrom mark substitute skip s
  | 0, c :: s =>
    if mark.isPrefixOf (c :: s) then substitute ++ replaceFrom mark substitute (mark.length - 1) s
    else c :: replaceFrom mark substitute 0 s

/-- Every occurrence of a non-empty `mark`, taken from the left without overlap, becomes `substitute`. -/
def replaceAll (mark substitute s : List Char) : List Char :=
  replaceFrom mark substitute 0 s

/-- Items with a separator between each two of them. -/
def joinWith (separator : String) : List String → String
  | [] => ""
  | [s] => s
  | s :: t :: rest => s ++ separator ++ joinWith separator (t :: rest)

theorem cut?_eq_append {mark s before after : List Char} (h : cut? mark s = some (before, after)) :
    s = before ++ mark ++ after := by
  induction s generalizing before with
  | nil => simp [cut?] at h
  | cons c s ih =>
    rw [cut?] at h
    split at h
    · next hp =>
      obtain ⟨t, ht⟩ := List.isPrefixOf_iff_prefix.mp hp
      obtain ⟨rfl, rfl⟩ : [] = before ∧ (c :: s).drop mark.length = after := by simpa using h
      rw [← ht]
      simp
    · obtain ⟨⟨b, a⟩, hb, hc⟩ := Option.map_eq_some_iff.mp h
      obtain ⟨rfl, rfl⟩ : c :: b = before ∧ a = after := by simpa using hc
      simp [ih hb]

theorem length_lt_of_cut? {mark s before after : List Char} (h : cut? mark s = some (before, after))
    (hm : mark ≠ []) : after.length < s.length := by
  have hl := congrArg List.length (cut?_eq_append h)
  have hp := List.length_pos_iff.mpr hm
  simp only [List.length_append] at hl
  omega

theorem joinWith_eq_intercalate (separator : String) (items : List String) :
    joinWith separator items = separator.intercalate items := by
  induction items with
  | nil => simp [joinWith]
  | cons s items ih =>
    cases items with
    | nil => simp [joinWith]
    | cons t rest => rw [joinWith, ih, String.intercalate_cons_cons]

end JobMatrix.Text
