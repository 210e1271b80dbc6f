import JobMatrix.Decimal.Shortest
import JobMatrix.Text.Digits

/-!
What plain text stands for: null, a truth value, an integer, a floating-point number, or itself.
-/
namespace JobMatrix.Yaml

/-- The value of text that is resolved by its form. Integers beyond 64 bits are told apart, and so are
the signed ones among them. -/
inductive Plain
  | null
  | bool (b : Bool)
  | int (n : Int)
  | wideInt (n : Int)
  | float (x : Binary64)
  | text (s : String)
  deriving DecidableEq

def isNullText (s : String) : Bool :=
  s == "~" || s == "null" || s == "Null" || s == "NULL"

def boolOf? : String → Option Bool
  | "true" | "True" | "TRUE" => some true
  | "false" | "False" | "FALSE" => some false
  | _ => none

/-- The base that a mark at the start of a number asks for, and the rest. -/
def markedBase? : List Char → Option (Nat × List Char)
  | '0' :: 'x' :: s => some (16, s)
  | '0' :: 'o' :: s => some (8, s)
  | '0' :: 'b' :: s => some (2, s)
  | _ => none

/-- Digits after a leading zero, with or without a sign: such text is no number. -/
def hasLeadingZero (s : List Char) : Bool :=
  let digits := match s with
    | '-' :: r | '+' :: r => r
    | _ => s
  match digits with
  | '0' :: d :: rest => (d :: rest).all Char.isDigit
  | _ => false

/-- A natural number up to a limit, with an optional plus sign. -/
def natural? (limit : Nat) (s : List Char) : Option Nat :=
  let bounded := fun (n? : Option Nat) => n?.filter (· ≤ limit)
  let body := match s with
    | '+' :: r => r
    | _ => s
  let marked := (markedBase? body).bind fun (base, digits) => bounded (Text.naturalIn? base digits)
  marked.or (if hasLeadingZero s then none else bounded (Text.naturalIn? 10 body))

/-- A negative number, or zero after a minus sign, down to a limit. -/
def negative? (limit : Nat) (s : List Char) : Option Int :=
  match s with
  | '-' :: body =>
    let bounded := fun (n? : Option Nat) => (n?.filter (· ≤ limit)).map fun n => -(n : Int)
    let marked := (markedBase? body).bind fun (base, digits) => bounded (Text.naturalIn? base digits)
    marked.or (if hasLeadingZero s then none else bounded (Text.naturalIn? 10 body))
  | _ => none

def integer? (s : List Char) : Option Plain :=
  ((natural? (UInt64.size - 1) s).map fun n => Plain.int n).or <|
    ((negative? (Nat.pow 2 63) s).map Plain.int).or <|
      ((natural? (Nat.pow 2 128 - 1) s).map fun n => Plain.wideInt n).or <|
        (negative? (Nat.pow 2 127) s).map Plain.wideInt

/-- A floating-point number: one of the spellings of infinity or of no number, or a finite decimal. -/
def float? (s : String) : Option Binary64 :=
  match s with
  | ".inf" | ".Inf" | ".INF" | "+.inf" | "+.Inf" | "+.INF" => some (.infinite false)
  | "-.inf" | "-.Inf" | "-.INF" => some (.infinite true)
  | ".nan" | ".NaN" | ".NAN" => some .nan
  | _ =>
    let chars := s.toList
    let doubled := match chars with
      | '+' :: c :: _ => c == '+' || c == '-'
      | _ => false
    if doubled then none else (Decimal.parse? chars).filter Binary64.isFinite

/-- What plain text without a tag stands for. -/
def Plain.ofText (s : String) : Plain :=
  if s = "" ∨ isNullText s then .null
  else match boolOf? s, integer? s.toList with
    | some b, _ => .bool b
    | none, some n => n
    | none, none =>
      if hasLeadingZero s.toList then .text s
      else match float? s with
        | some x => .float x
        | none => .text s

end JobMatrix.Yaml
