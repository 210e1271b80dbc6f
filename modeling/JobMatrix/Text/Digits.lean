/-!
Numbers written with digits of a given base.
-/
namespace JobMatrix.Text

/-- The value of a digit in a base of at most sixteen. -/
def digitIn? (base : Nat) (c : Char) : Option Nat :=
  let value? :=
    if c.isDigit then some (c.toNat - 0x30)
    else if 'a' ≤ c ∧ c ≤ 'f' then some (c.toNat - 0x57)
    else if 'A' ≤ c ∧ c ≤ 'F' then some (c.toNat - 0x37)
    else none
  value?.filter (· < base)

/-- The number that a non-empty run of digits stands for. -/
def naturalIn? (base : Nat) (s : List Char) : Option Nat :=
  if s = [] then none else s.foldlM (fun n c => (digitIn? base c).map (base * n + ·)) 0

end JobMatrix.Text
