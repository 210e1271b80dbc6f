/-!
Tables from names to values that remember the order in which their names first came. Writing a name
again replaces its value and keeps its place. Main statements: the names of a table after `insert`, and
what `get?` finds then.
-/
namespace JobMatrix
variable {β : Type}

/-- Entries with pairwise different names, in the order in which the names came. -/
structure Table (β : Type) where
  entries : List (String × β)
  distinct : (entries.map Prod.fst).Nodup
  deriving DecidableEq

namespace Table

/-- The entries after `name` is given `value`: in its old place, or at the end if it is new. -/
def put (name : String) (value : β) : List (String × β) → List (String × β)
  | [] => [(name, value)]
  | e :: rest => if e.1 = name then (name, value) :: rest else e :: put name value rest

/-- The value of the first entry with a name. -/
def valueIn (key : String) : List (String × β) → Option β
  | [] => none
  | e :: rest => if e.1 = key then some e.2 else valueIn key rest

theorem fst_put (name : String) (value : β) (es : List (String × β)) :
    (put name value es).map Prod.fst =
      if name ∈ es.map Prod.fst then es.map Prod.fst else es.map Prod.fst ++ [name] := by
  induction es with
  | nil => simp [put]
  | cons e rest ih =>
    by_cases h : e.1 = name
    · simp [put, h]
    · have h' : ¬ name = e.1 := fun e' => h e'.symm
      rw [put, if_neg h, List.map_cons, ih]
      by_cases hm : name ∈ rest.map Prod.fst <;> simp_all

theorem nodup_put (name : String) (value : β) {es : List (String × β)}
    (h : (es.map Prod.fst).Nodup) : ((put name value es).map Prod.fst).Nodup := by
  rw [fst_put]
  split
  · exact h
  · next hm =>
    rw [List.nodup_append]
    exact ⟨h, by simp, fun a ha b hb hab => hm (by simp_all)⟩

theorem valueIn_put (name key : String) (value : β) (es : List (String × β)) :
    valueIn key (put name value es) = if key = name then some value else valueIn key es := by
  induction es with
  | nil => simp [put, valueIn, eq_comm]
  | cons e rest ih =>
    by_cases h : e.1 = name
    · subst h
      by_cases hk : e.1 = key
      · simp [put, valueIn, hk]
      · have hk' : ¬ key = e.1 := fun h => hk h.symm
        simp [put, valueIn, hk, hk']
    · by_cases hk : e.1 = key
      · subst hk
        simp [put, valueIn, h]
      · simp [put, valueIn, h, hk, ih]

def empty : Table β := ⟨[], List.nodup_nil⟩

instance : Inhabited (Table β) := ⟨empty⟩

def insert (t : Table β) (name : String) (value : β) : Table β :=
  ⟨put name value t.entries, nodup_put name value t.distinct⟩

/-- The table of a list of entries, written one after the other. -/
def ofList (es : List (String × β)) : Table β :=
  es.foldl (fun t e => t.insert e.1 e.2) empty

/-- The first table with the entries of the second written over it. -/
def overlay (t u : Table β) : Table β :=
  u.entries.foldl (fun t e => t.insert e.1 e.2) t

def names (t : Table β) : List String := t.entries.map Prod.fst

def get? (t : Table β) (name : String) : Option β := valueIn name t.entries

theorem names_insert (t : Table β) (name : String) (value : β) :
    (t.insert name value).names = if name ∈ t.names then t.names else t.names ++ [name] :=
  fst_put name value t.entries

theorem get?_insert (t : Table β) (name key : String) (value : β) :
    (t.insert name value).get? key = if key = name then some value else t.get? key :=
  valueIn_put name key value t.entries

end Table
end JobMatrix
