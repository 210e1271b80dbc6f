import JobMatrix.Decimal.Binary64

/-!
The shortest decimal that reads back as a given floating-point number, and the two notations in which
such decimals are written. For one digit, two digits and so on, the two neighbours of the number on the
grid of that many digits are tried; the first grid with a neighbour that reads back is taken, and of two
such neighbours the nearer one.
-/
namespace JobMatrix.Decimal

/-- The decimal `digits * 10 ^ power`. -/
structure Scaled where
  digits : Nat
  power : Int

/-- A positive number as a quotient, with the ends of the interval that rounds to it. -/
structure Bracket where
  low : Nat
  value : Nat
  high : Nat
  den : Nat
  closed : Bool

/-- The interval around `mantissa * 2 ^ exponent`; its lower half is halved at a power of two. -/
def bracket (mantissa : Nat) (exponent : Int) : Bracket :=
  let half := if mantissa = Nat.pow 2 52 ∧ Binary64.leastExponent < exponent then 1 else 2
  let scale := Nat.pow 2 exponent.toNat
  ⟨(4 * mantissa - half) * scale, 4 * mantissa * scale, (4 * mantissa + 2) * scale,
    4 * Nat.pow 2 (-exponent).toNat, mantissa % 2 == 0⟩

def Bracket.contains (b : Bracket) (num den : Nat) : Bool :=
  if b.closed then b.low * den ≤ num * b.den && num * b.den ≤ b.high * den
  else b.low * den < num * b.den && num * b.den < b.high * den

/-- The neighbour on the grid of multiples of `10 ^ power` that reads back, the nearer of two. -/
def Bracket.neighbour? (b : Bracket) (power : Int) : Option Nat :=
  let up := Nat.pow 10 power.toNat
  let down := Nat.pow 10 (-power).toNat
  let below := b.value * down / (b.den * up)
  let fits := fun k => b.contains (k * up) down
  match fits below, fits (below + 1) with
  | false, false => none
  | true, false => some below
  | false, true => some (below + 1)
  | true, true =>
    let twice := 2 * b.value * down
    let middle := (2 * below + 1) * up * b.den
    some (if twice < middle then below
      else if middle < twice then below + 1
      else below + below % 2)

/-- The power of ten of the leading digit of a positive quotient, searched downwards from a bound. -/
def leadingPower (num den : Nat) : Nat → Int → Int
  | 0, power => power
  | tries + 1, power =>
    if den * Nat.pow 10 power.toNat ≤ num * Nat.pow 10 (-power).toNat then power
    else leadingPower num den tries (power - 1)

/-- The first grid that has a neighbour, from `power` downwards. -/
def Bracket.firstNeighbour (b : Bracket) : Nat → Int → Scaled
  | 0, power => ⟨b.value * Nat.pow 10 (-power).toNat / (b.den * Nat.pow 10 power.toNat), power⟩
  | tries + 1, power =>
    match b.neighbour? power with
    | some digits => ⟨digits, power⟩
    | none => firstNeighbour b tries (power - 1)

/-- The decimal without zeros at the end of its digits. -/
def Scaled.trimmed (s : Scaled) : Nat → Scaled
  | 0 => s
  | tries + 1 =>
    if s.digits ≠ 0 ∧ s.digits % 10 = 0 then trimmed ⟨s.digits / 10, s.power + 1⟩ tries else s

/-- The shortest decimal for a positive finite number. -/
def shortest (mantissa : Nat) (exponent : Int) : Scaled :=
  let b := bracket mantissa exponent
  let size : Int := (Nat.log2 mantissa : Int) + exponent
  let guess := size * 30103 / 100000 + 1
  let lead := leadingPower b.value b.den 8 guess
  (b.firstNeighbour 18 lead).trimmed 20

/-- Digits with the point put after the first `places` of them, zeros filling up on either side. -/
def positional (digits : List Char) (places : Int) : List Char :=
  let count : Int := digits.length
  if places ≤ 0 then '0' :: '.' :: List.replicate (-places).toNat '0' ++ digits
  else if count ≤ places then digits ++ List.replicate (places - count).toNat '0' ++ ['.', '0']
  else digits.take places.toNat ++ '.' :: digits.drop places.toNat

/-- Digits with one of them before the point, and a power of ten. -/
def scientific (digits : List Char) (places : Int) : List Char :=
  let tail := digits.drop 1
  digits.take 1 ++ (if tail = [] then [] else '.' :: tail) ++ 'e' :: (toString (places - 1)).toList

/-- Positional notation from `0.00001` to below `10 ^ 16`, scientific notation elsewhere. -/
def mixed (digits : List Char) (places : Int) : List Char :=
  if -5 < places ∧ places ≤ 16 then positional digits places else scientific digits places

/-- A finite number in one of the notations. -/
def textWith (notate : List Char → Int → List Char) (negative : Bool) (mantissa : Nat) (exponent : Int) :
    String :=
  let body :=
    if mantissa = 0 then ['0', '.', '0']
    else
      let s := shortest mantissa exponent
      let digits := Nat.toDigits 10 s.digits
      notate digits (digits.length + s.power)
  String.ofList (if negative then '-' :: body else body)

/-- A number as a document spells it. -/
def documentText : Binary64 → String
  | .nan => ".nan"
  | .infinite negative => if negative then "-.inf" else ".inf"
  | .finite negative mantissa exponent => textWith mixed negative mantissa exponent

/-- A number as a message spells it, always in positional notation. -/
def messageText : Binary64 → String
  | .nan => "NaN"
  | .infinite negative => if negative then "-inf" else "inf"
  | .finite negative mantissa exponent => textWith positional negative mantissa exponent

/-- The value of decimal digits read after a value already read. -/
def digitsValue (value : Nat) (digits : List Char) : Nat :=
  digits.foldl (fun n c => 10 * n + (c.toNat - '0'.toNat)) value

/-- A signed power of ten: digits after an optional sign. -/
def powerOf? (s : List Char) : Option Int :=
  let (negative, digits) := match s with
    | '-' :: rest => (true, rest)
    | '+' :: rest => (false, rest)
    | _ => (false, s)
  if digits = [] ∨ digits.any (!·.isDigit) then none
  else
    let n : Int := digitsValue 0 digits
    some (if negative then -n else n)

/-- The digits and the power of ten of an unsigned decimal: digits with an optional point among or at
either end of them, then an optional power after `e` or `E`. -/
def scaledOf? (s : List Char) : Option Scaled :=
  let whole := s.takeWhile Char.isDigit
  let rest := s.dropWhile Char.isDigit
  let (fraction, rest) := match rest with
    | '.' :: r => (r.takeWhile Char.isDigit, r.dropWhile Char.isDigit)
    | _ => ([], rest)
  if whole = [] ∧ fraction = [] then none
  else
    let digits := digitsValue (digitsValue 0 whole) fraction
    let scaled := fun (power : Int) => Scaled.mk digits (power - fraction.length)
    match rest with
    | [] => some (scaled 0)
    | c :: r => if c = 'e' ∨ c = 'E' then (powerOf? r).map scaled else none

/-- The floating-point number nearest to a decimal with an optional sign. -/
def parse? (s : List Char) : Option Binary64 :=
  let (negative, body) := match s with
    | '-' :: rest => (true, rest)
    | '+' :: rest => (false, rest)
    | _ => (false, s)
  (scaledOf? body).map fun d => Binary64.ofDecimal negative d.digits d.power

end JobMatrix.Decimal
