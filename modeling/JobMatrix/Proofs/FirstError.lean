import Mathlib.Data.List.Basic

/-!
Checks that report the first of a list of errors. One check after the other reports the first error of the two
lists behind one another, and so does a check of every entry of a list.
-/
namespace JobMatrix
variable {α β ε : Type}

theorem bind_eq_ok_iff {x : Except ε α} {f : α → Except ε β} {r : β} :
    (x >>= f) = .ok r ↔ ∃ a, x = .ok a ∧ f a = .ok r := by
  cases x <;> simp [bind, Except.bind]

theorem bind_unit_eq_ok_iff {x : Except ε Unit} {f : Unit → Except ε β} {r : β} :
    (x >>= f) = .ok r ↔ x = .ok () ∧ f () = .ok r := by
  cases x <;> simp [bind, Except.bind]

def firstOf : List ε → Except ε Unit
  | [] => .ok ()
  | e :: _ => .error e

theorem firstOf_eq_ok_iff {errors : List ε} : firstOf errors = .ok () ↔ errors = [] := by
  cases errors <;> simp [firstOf]

theorem firstOf_eq_error_iff {errors : List ε} {e : ε} : firstOf errors = .error e ↔ errors.head? = some e := by
  cases errors <;> simp [firstOf]

theorem firstOf_append (first second : List ε) :
    firstOf (first ++ second) = (do firstOf first; firstOf second) := by
  cases first <;> rfl

theorem firstOf_bind_congr {errors : List ε} {f g : Unit → Except ε β} (h : errors = [] → f () = g ()) :
    (firstOf errors >>= f) = (firstOf errors >>= g) := by
  cases errors with
  | nil => exact h rfl
  | cons e rest => rfl

theorem forM_eq_firstOf {f : α → Except ε Unit} {g : α → List ε} {l : List α}
    (h : ∀ a ∈ l, f a = firstOf (g a)) : l.forM f = firstOf (l.flatMap g) := by
  induction l with
  | nil => rfl
  | cons a rest ih =>
    have hcons : (a :: rest).forM f = (do f a; rest.forM f) := rfl
    rw [hcons, List.flatMap_cons, firstOf_append, h a (by simp), ih fun c hc => h c (by simp [hc])]

theorem mapM_eq_firstOf {f : α → Except ε β} {g : α → List ε} {out : α → β} {l : List α}
    (h : ∀ a ∈ l, f a = (do firstOf (g a); return out a)) :
    l.mapM f = (do firstOf (l.flatMap g); return l.map out) := by
  induction l with
  | nil => rfl
  | cons a rest ih =>
    have hrest := ih fun c hc => h c (by simp [hc])
    rw [List.mapM_cons, h a (by simp), hrest, List.flatMap_cons, firstOf_append]
    cases firstOf (g a) with
    | error e => rfl
    | ok =>
      cases firstOf (rest.flatMap g) with
      | error e => rfl
      | ok => rfl

end JobMatrix
