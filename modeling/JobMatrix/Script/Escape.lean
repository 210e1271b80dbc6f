import JobMatrix.Text.Bytes
import JobMatrix.Text.Digits

/-!
Escapes with a backslash in the texts that commands print.
-/
namespace JobMatrix.Script

structure EscapeRules where
  escape : Bool
  numbers : Bool
  /-- An octal number may start with any digit; otherwise it starts with a zero. -/
  anyOctal : Bool
  /-- A zero may stand before an octal number of three digits. -/
  leadingZero : Bool
  /-- `c` ends the whole text. -/
  stops : Bool
  selves : List Char

inductive Escape
  | bytes (bs rest : List Char)
  | stop

def controlOf? : Char → Option Char
  | 'a' => some '\x07'
  | 'b' => some '\x08'
  | 'f' => some '\x0c'
  | 'n' => some '\n'
  | 'r' => some '\r'
  | 't' => some '\t'
  | 'v' => some '\x0b'
  | '\\' => some '\\'
  | _ => none

def numberOfDigits (base : Nat) : Nat → Nat → List Char → Nat × List Char
  | 0, n, s => (n, s)
  | _ + 1, n, [] => (n, [])
  | limit + 1, n, c :: s =>
    match Text.digitIn? base c with
    | some d => numberOfDigits base limit (base * n + d) s
    | none => (n, c :: s)

def isOctal (c : Char) : Bool := (Text.digitIn? 8 c).isSome

def byteNumber (n : Nat) : Char := Char.ofNat (n % 256)

/-- The escape after a backslash; none if the backslash stands for itself. -/
def escapeAt? (rules : EscapeRules) : List Char → Option Escape
  | [] => none
  | c :: s =>
    match controlOf? c with
    | some b => some (.bytes [b] s)
    | none =>
      if c = 'c' ∧ rules.stops then some .stop
      else if rules.selves.contains c then some (.bytes [c] s)
      else if isOctal c then
        if c = '0' ∧ rules.leadingZero then
          let (n, rest) := numberOfDigits 8 3 0 s
          some (.bytes [byteNumber n] rest)
        else if c = '0' ∨ rules.anyOctal then
          let (n, rest) := numberOfDigits 8 3 0 (c :: s)
          some (.bytes [byteNumber n] rest)
        else none
      else if c = 'e' ∧ rules.escape ∨ c = 'E' ∧ rules.numbers then some (.bytes ['\x1b'] s)
      else if !rules.numbers then none
      else
        let limit := if c = 'x' then 2 else if c = 'u' then 4 else if c = 'U' then 8 else 0
        let (n, rest) := numberOfDigits 16 limit 0 s
        if limit = 0 ∨ rest.length = s.length then none
        else if c = 'x' then some (.bytes [byteNumber n] rest)
        else some (.bytes (Text.bytes (String.singleton (Char.ofNat n))) rest)

def unescape (rules : EscapeRules) : Nat → List Char → List Char × Bool
  | 0, s => (s, false)
  | _ + 1, [] => ([], false)
  | limit + 1, c :: s =>
    let go := fun (bs rest : List Char) =>
      let (later, ended) := unescape rules limit rest
      (bs ++ later, ended)
    if c = '\\' then
      match escapeAt? rules s with
      | some (.bytes bs rest) => go bs rest
      | some .stop => ([], true)
      | none => go [c] s
    else go [c] s

def standardText : EscapeRules := ⟨true, false, true, true, true, []⟩

def standardFormat : EscapeRules := ⟨true, false, true, false, false, []⟩

def extendedText : EscapeRules := ⟨true, true, false, true, true, []⟩

def extendedArgument : EscapeRules := ⟨true, true, true, true, true, ['\'', '"', '?']⟩

def extendedFormat : EscapeRules := ⟨true, true, true, false, false, ['\'', '"', '?']⟩

end JobMatrix.Script
