import JobMatrix.Script.Arithmetic
import JobMatrix.Script.Escape

/-!
Formats with directives, as they are printed with arguments. The format is used again as long as there are
arguments left.
-/
namespace JobMatrix.Script.Format

/-- A directive: its flags, its width and precision, and the letter that tells what it converts. -/
structure Directive where
  flags : List Char
  width : Nat
  precision : Option Nat
  letter : Char

/-- What can be wrong with an argument or with a directive; a wrong directive ends the printing. -/
inductive Trouble
  | noNumber (argument : String)
  | partNumber (argument : String)
  | outOfRange (argument : String)
  | unknownLetter (directive : String) (letter : Char)
  | noLetter
  deriving DecidableEq

/-- What printing leaves: the text, what was wrong, the arguments left, and whether it was ended early. -/
structure Printed where
  text : List Char
  troubles : List Trouble
  arguments : List String
  ended : Bool

/-- The rules of escapes in the format and in arguments that hold escapes. -/
structure Rules where
  format : EscapeRules
  argument : EscapeRules

def rulesOf (extended : Bool) : Rules :=
  if extended then ⟨extendedFormat, extendedArgument⟩ else ⟨standardFormat, standardText⟩

/-- A text brought to a width. -/
def padded (d : Directive) (s : List Char) : List Char :=
  let fill := List.replicate (d.width - s.length) ' '
  if d.flags.contains '-' then s ++ fill else fill ++ s

/-- Digits with their sign brought to a width, which zeros may fill. -/
def paddedNumber (d : Directive) (sign digits : List Char) : List Char :=
  let digits := match d.precision with
    | some n => List.replicate (n - digits.length) '0' ++ digits
    | none => digits
  if d.flags.contains '0' && !d.flags.contains '-' && d.precision.isNone then
    sign ++ List.replicate (d.width - sign.length - digits.length) '0' ++ digits
  else padded d (sign ++ digits)

/-- The integer that an argument stands for, as far as it is one, and what is wrong with it. -/
def integer (argument : String) : Int × Option Trouble :=
  let unsignedNumber := fun (sign : Int) (s : List Char) =>
    match numberAt? s with
    | some (n, []) => (sign * n, none)
    | some (n, _) => (sign * n, some (.partNumber argument))
    | none =>
      let digits := s.takeWhile Char.isDigit
      match Text.naturalIn? 10 digits with
      | some n => (sign * n, some (.partNumber argument))
      | none => (0, some (.noNumber argument))
  let (n, trouble) := match argument.toList with
    | [] => (0, none)
    | '\'' :: c :: _ | '"' :: c :: _ => ((c.toNat : Int), none)
    | '-' :: s => unsignedNumber (-1) s
    | '+' :: s => unsignedNumber 1 s
    | s => unsignedNumber 1 s
  if n ≥ wordHalf then (wordHalf - 1, some (.outOfRange argument))
  else if n < -wordHalf then (-wordHalf, some (.outOfRange argument))
  else (n, trouble)

/-- A decimal fraction as an integer and the power of ten that divides it. -/
def decimal? (argument : String) : Option (Int × Nat) :=
  let (sign, s) := match argument.toList with
    | '-' :: s => (-1, s)
    | s => (1, s)
  let whole := s.takeWhile Char.isDigit
  let rest := s.drop whole.length
  if argument = "" then some (0, 0)
  else match rest with
    | [] => (Text.naturalIn? 10 whole).map fun n => (sign * n, 0)
    | '.' :: fraction => (Text.naturalIn? 10 (whole ++ fraction)).map fun n => (sign * n, fraction.length)
    | _ => none

/-- A decimal fraction with a number of places, a half going to the even neighbour. -/
def fixed (n : Int) (scale places : Nat) : List Char :=
  let shifted := n.natAbs * Nat.pow 10 places
  let divisor := Nat.pow 10 scale
  let (q, r) := (shifted / divisor, shifted % divisor)
  let q := if divisor < 2 * r ∨ (2 * r = divisor ∧ q % 2 = 1) then q + 1 else q
  let digits := Nat.toDigits 10 q
  let digits := List.replicate (places + 1 - digits.length) '0' ++ digits
  let whole := digits.take (digits.length - places)
  whole ++ if places = 0 then [] else '.' :: digits.drop (digits.length - places)

def signOf (d : Directive) (negative : Bool) : List Char :=
  if negative then ['-'] else if d.flags.contains '+' then ['+'] else if d.flags.contains ' ' then [' '] else []

/-- A number in a base, in which a negative number counts back from the greatest one of 64 bits. -/
def unsigned (d : Directive) (base : Nat) (lead : List Char) (n : Int) : List Char :=
  let digits := Nat.toDigits base (n % UInt64.size).toNat
  paddedNumber d (if d.flags.contains '#' && n != 0 then lead else []) digits

def shellQuoted (s : List Char) : List Char :=
  if s.isEmpty then ['\'', '\'']
  else s.flatMap fun c => if c.isAlphanum || ['_', '-', '.', '/', ':', '=', '@', '%', '+'].contains c then [c]
    else ['\\', c]

/-- A number with one digit before the point and its power of ten. -/
def scientific (n : Int) (scale places : Nat) : List Char :=
  let digits := Nat.toDigits 10 n.natAbs
  let exponent : Int := if n = 0 then 0 else (digits.length : Int) - 1 - scale
  let mantissa := if n = 0 then fixed 0 0 places else fixed n.natAbs (digits.length - 1) places
  let hasCarry := n ≠ 0 ∧ mantissa.take 2 = ['1', '0'] ∧ (mantissa.takeWhile Char.isDigit).length = 2
  let (mantissa, exponent) := if hasCarry then ('1' :: mantissa.drop 2, exponent + 1) else (mantissa, exponent)
  let power := Nat.toDigits 10 exponent.natAbs
  mantissa ++ ['e', if exponent < 0 then '-' else '+'] ++ List.replicate (2 - power.length) '0' ++ power

/-- What a directive makes of an argument, what is wrong, and whether the printing ends there. -/
def convert (rules : Rules) (extended : Bool) (d : Directive) (argument : String) :
    List Char × Option Trouble × Bool :=
  let s := argument.toList
  let number := fun (f : Int → List Char) =>
    let (n, trouble) := integer argument
    (f n, trouble, false)
  let fraction := fun (f : Int → Nat → List Char) =>
    match decimal? argument with
    | some (n, scale) => (paddedNumber { d with precision := none } (signOf d (n < 0)) (f n scale), none, false)
    | none => (paddedNumber { d with precision := none } [] (f 0 0), some (.noNumber argument), false)
  match d.letter with
  | 's' => (padded d (s.take (d.precision.getD s.length)), none, false)
  | 'c' => (padded d (if s.isEmpty then ['\x00'] else s.take 1), none, false)
  | 'b' =>
    let (text, ended) := unescape rules.argument (s.length + 1) s
    (padded d text, none, ended)
  | 'd' | 'i' => number fun n => paddedNumber d (signOf d (n < 0)) (Nat.toDigits 10 n.natAbs)
  | 'u' => number (unsigned d 10 [])
  | 'o' => number (unsigned d 8 ['0'])
  | 'x' => number (unsigned d 16 ['0', 'x'])
  | 'X' => number fun n => (unsigned d 16 ['0', 'x'] n).map Char.toUpper
  | 'f' | 'F' => fraction fun n scale => fixed n scale (d.precision.getD 6)
  | 'e' => fraction fun n scale => scientific n scale (d.precision.getD 6)
  | letter =>
    if letter = 'q' ∧ extended then (padded d (shellQuoted s), none, false)
    else ([], some (.unknownLetter (String.ofList ['%', letter]) letter), true)

/-- A number in a format, or the next argument in its place. -/
def numberIn (s : List Char) (arguments : List String) : Option Int × List Char × List String :=
  match s with
  | '*' :: rest =>
    match arguments with
    | a :: later => (some (integer a).1, rest, later)
    | [] => (some 0, rest, [])
  | _ =>
    let digits := s.takeWhile Char.isDigit
    ((Text.naturalIn? 10 digits).map Int.ofNat, s.drop digits.length, arguments)

/-- The directive that starts after a percent sign. -/
def directiveAt? (s : List Char) (arguments : List String) : Option (Directive × List Char × List String) :=
  let flags := s.takeWhile (['-', '+', ' ', '#', '0'].contains ·)
  let (width, rest, arguments) := numberIn (s.drop flags.length) arguments
  let (precision, rest, arguments) := match rest with
    | '.' :: rest =>
      let (precision, rest, arguments) := numberIn rest arguments
      (some (precision.getD 0), rest, arguments)
    | _ => (none, rest, arguments)
  let flags := if (width.getD 0) < 0 then '-' :: flags else flags
  match rest with
  | letter :: rest =>
    let precision := precision.bind fun n => if n < 0 then none else some n.toNat
    some (⟨flags, (width.getD 0).natAbs, precision, letter⟩, rest, arguments)
  | [] => none

def once (rules : Rules) (extended : Bool) : Nat → List Char → List String → Printed
  | 0, _, arguments | _, [], arguments => ⟨[], [], arguments, false⟩
  | n + 1, '\\' :: s, arguments =>
    match escapeAt? rules.format s with
    | some (.bytes bs rest) =>
      let later := once rules extended n rest arguments
      { later with text := bs ++ later.text }
    | _ =>
      let later := once rules extended n s arguments
      { later with text := '\\' :: later.text }
  | n + 1, '%' :: '%' :: s, arguments =>
    let later := once rules extended n s arguments
    { later with text := '%' :: later.text }
  | n + 1, '%' :: s, arguments =>
    match directiveAt? s arguments with
    | none => ⟨[], [.noLetter], arguments, true⟩
    | some (d, rest, arguments) =>
      let (argument, arguments) := match arguments with
        | a :: later => (a, later)
        | [] => ("", [])
      let (text, trouble, ended) := convert rules extended d argument
      if ended then ⟨text, trouble.toList, arguments, true⟩
      else
        let later := once rules extended n rest arguments
        { later with text := text ++ later.text, troubles := trouble.toList ++ later.troubles }
  | n + 1, c :: s, arguments =>
    let later := once rules extended n s arguments
    { later with text := c :: later.text }

def all (extended : Bool) (format : List Char) : Nat → List String → Printed
  | 0, arguments => ⟨[], [], arguments, false⟩
  | n + 1, arguments =>
    let first := once (rulesOf extended) extended (format.length + 1) format arguments
    if first.ended || first.arguments.isEmpty || first.arguments.length = arguments.length then first
    else
      let later := all extended format n first.arguments
      { later with text := first.text ++ later.text, troubles := first.troubles ++ later.troubles }

end JobMatrix.Script.Format
