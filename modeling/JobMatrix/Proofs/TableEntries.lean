import JobMatrix.Table
import Mathlib.Data.List.Induction
import Mathlib.Data.List.Nodup
import Mathlib.Data.List.Zip

/-!
Tables seen through their entries. A list of entries with different names is the table of itself, and a
value is found under a name exactly when the two are an entry.
-/
namespace JobMatrix.Table
variable {β : Type}

theorem put_of_not_mem {name : String} {es : List (String × β)} (value : β)
    (h : name ∉ es.map Prod.fst) : put name value es = es ++ [(name, value)] := by
  induction es with
  | nil => rfl
  | cons e rest ih =>
    obtain ⟨he, hr⟩ : ¬ name = e.1 ∧ name ∉ rest.map Prod.fst := by
      simpa only [List.map_cons, List.mem_cons, not_or] using h
    have hne : ¬ e.1 = name := fun heq => he heq.symm
    rw [put, if_neg hne, ih hr]
    rfl

theorem entries_insert_of_not_mem {t : Table β} {name : String} (value : β) (h : name ∉ t.names) :
    (t.insert name value).entries = t.entries ++ [(name, value)] := put_of_not_mem value h

theorem entries_foldl_insert (es : List (String × β)) (t : Table β)
    (h : (t.names ++ es.map Prod.fst).Nodup) :
    (es.foldl (fun t e => t.insert e.1 e.2) t).entries = t.entries ++ es := by
  induction es generalizing t with
  | nil => simp
  | cons e rest ih =>
    have hnew : e.1 ∉ t.names := by
      intro hmem
      exact (List.nodup_append.mp h).2.2 e.1 hmem e.1 (by simp) rfl
    have hnext : ((t.insert e.1 e.2).names ++ rest.map Prod.fst).Nodup := by
      rw [names_insert, if_neg hnew]
      simpa using h
    rw [List.foldl_cons, ih _ hnext, entries_insert_of_not_mem e.2 hnew]
    simp

theorem entries_ofList {es : List (String × β)} (h : (es.map Prod.fst).Nodup) :
    (ofList es).entries = es := by
  have hn : ((empty : Table β).names ++ es.map Prod.fst).Nodup := by
    simpa [names, empty] using h
  rw [ofList, entries_foldl_insert es empty hn]
  rfl

theorem valueIn_eq_some_iff {key : String} {value : β} {es : List (String × β)}
    (h : (es.map Prod.fst).Nodup) : valueIn key es = some value ↔ (key, value) ∈ es := by
  induction es with
  | nil => simp [valueIn]
  | cons e rest ih =>
    obtain ⟨hn, hr⟩ := List.nodup_cons.mp h
    by_cases hk : e.1 = key
    · subst hk
      have hnot : (e.1, value) ∉ rest := fun hm => hn (List.mem_map.mpr ⟨_, hm, rfl⟩)
      simp [valueIn, hnot, Prod.ext_iff, eq_comm]
    · have hne : ¬ (key, value) = e := fun he => hk (by rw [← he])
      rw [valueIn, if_neg hk, ih hr, List.mem_cons, or_iff_right hne]

theorem valueIn_eq_none {key : String} {es : List (String × β)} (h : key ∉ es.map Prod.fst) : valueIn key es = none := by
  induction es with
  | nil => rfl
  | cons e rest ih =>
    obtain ⟨he, hr⟩ : ¬ key = e.1 ∧ key ∉ rest.map Prod.fst := by
      simpa only [List.map_cons, List.mem_cons, not_or] using h
    have hne : ¬ e.1 = key := fun heq => he heq.symm
    rw [valueIn, if_neg hne, ih hr]

theorem get?_eq_some_iff (t : Table β) {name : String} {value : β} :
    t.get? name = some value ↔ (name, value) ∈ t.entries :=
  valueIn_eq_some_iff t.distinct

theorem get?_eq_none_iff (t : Table β) {name : String} : t.get? name = none ↔ name ∉ t.names := by
  constructor
  · intro hnone hmem
    obtain ⟨⟨key, value⟩, he, rfl⟩ := List.mem_map.mp hmem
    rw [t.get?_eq_some_iff.mpr he] at hnone
    cases hnone
  · exact valueIn_eq_none

theorem valueIn_reverse {es : List (String × β)} (h : (es.map Prod.fst).Nodup) (name : String) :
    valueIn name es.reverse = valueIn name es := by
  have hreverse : (es.reverse.map Prod.fst).Nodup := by rwa [List.map_reverse, List.nodup_reverse]
  refine Option.ext fun value => ?_
  rw [valueIn_eq_some_iff hreverse, valueIn_eq_some_iff h, List.mem_reverse]

theorem get?_foldl_insert (es : List (String × β)) (t : Table β) (name : String) :
    (es.foldl (fun t e => t.insert e.1 e.2) t).get? name = (valueIn name es.reverse).or (t.get? name) := by
  induction es using List.reverseRecOn with
  | nil => rfl
  | append_singleton es e ih =>
    rw [List.foldl_concat, get?_insert, ih, List.reverse_concat, valueIn]
    by_cases hk : e.1 = name
    · rw [if_pos hk.symm, if_pos hk]
      rfl
    · rw [if_neg fun heq => hk heq.symm, if_neg hk]

theorem get?_overlay (t u : Table β) (name : String) : (t.overlay u).get? name = (u.get? name).or (t.get? name) := by
  rw [overlay, get?_foldl_insert, valueIn_reverse u.distinct]
  rfl

theorem get?_of_perm {t u : Table β} (rearranged : t.entries.Perm u.entries) (name : String) :
    t.get? name = u.get? name := by
  refine Option.ext fun value => ?_
  rw [t.get?_eq_some_iff, u.get?_eq_some_iff, rearranged.mem_iff]

theorem mem_names_of_perm {t u : Table β} (rearranged : t.entries.Perm u.entries) (name : String) :
    name ∈ t.names ↔ name ∈ u.names := (rearranged.map Prod.fst).mem_iff

theorem map_get?_of_entries_eq_zip {t : Table β} {names : List String} {values : List β}
    (h : t.entries = names.zip values) (hl : names.length = values.length) :
    names.map t.get? = values.map some := by
  apply List.ext_getElem (by simpa using hl)
  intro i hi hi'
  have hn : i < names.length := by simpa using hi
  have hv : i < values.length := by simpa using hi'
  have hz : i < (names.zip values).length := by simp only [List.length_zip]; omega
  have hmem : (names[i], values[i]) ∈ t.entries := by
    rw [h, ← List.getElem_zip (h := hz)]
    exact List.getElem_mem hz
  simpa using t.get?_eq_some_iff.mpr hmem

end JobMatrix.Table
