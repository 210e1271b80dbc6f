import JobMatrix.Script.Program

/-!
Programs that show the bytes of their input, or arrange its lines.
-/
namespace JobMatrix.Script.Program
open Eval Script.Filter

def inBase (base width n : Nat) : String :=
  let digits := Nat.toDigits base n
  String.ofList (List.replicate (width - digits.length) '0' ++ digits)

def shownControls : List (Nat × Char) :=
  [(0, '0'), (7, 'a'), (8, 'b'), (9, 't'), (10, 'n'), (11, 'v'), (12, 'f'), (13, 'r')]

/-- A byte as a character in a column of four. -/
def shownCharacter (c : Char) : String :=
  match shownControls.find? (·.1 == c.toNat) with
  | some (_, letter) => "  \\" ++ String.singleton letter
  | none =>
    if 32 ≤ c.toNat ∧ c.toNat < 127 then "   " ++ String.singleton c
    else " " ++ inBase 8 3 c.toNat

/-- Pairs of bytes as numbers, the first byte being the lower one. -/
def pairs : List Char → List Nat
  | [] => []
  | [a] => [a.toNat]
  | a :: b :: rest => (a.toNat + 256 * b.toNat) :: pairs rest

def row (format : String) (bytes : List Char) : String :=
  String.join <| match format with
    | "c" => bytes.map shownCharacter
    | "x1" => bytes.map fun b => " " ++ inBase 16 2 b.toNat
    | "o1" => bytes.map fun b => " " ++ inBase 8 3 b.toNat
    | "u1" | "d1" => bytes.map fun b => column 4 b.toNat
    | "x2" => (pairs bytes).map fun n => " " ++ inBase 16 4 n
    | _ => (pairs bytes).map fun n => " " ++ inBase 8 6 n

/-- The rows of a dump. A row that repeats the one before it is shown as an asterisk. -/
def rowsFrom (format : String) (addresses : Bool) :
    Nat → Nat → Option (List Char) → Bool → List Char → List String
  | 0, _, _, _, _ => []
  | n + 1, offset, last, starred, bytes =>
    let place := if addresses then inBase 8 7 offset else ""
    if bytes.isEmpty then if addresses then [place] else []
    else
      let here := bytes.take 16
      let later := fun (starred : Bool) =>
        rowsFrom format addresses n (offset + here.length) (some here) starred (bytes.drop 16)
      if last = some here ∧ here.length = 16 then if starred then later true else "*" :: later true
      else (place ++ row format here) :: later false

def od (found : Options) (paths : List String) : Eval Nat := do
  let (text, good) ← wholeInput "od" paths
  let format := if hasOption found 'c' then "c" else if hasOption found 'x' then "x2"
    else if hasOption found 'b' then "o1" else (optionValue? found 't').getD "o2"
  let format := if format = "x" then "x4" else format
  let addresses := optionValue? found 'A' != some "n"
  for line in rowsFrom format addresses (text.length + 2) 0 none false text do
    sayLine line
  return statusOf good

def digits64 : List Char := "ABCDEFGHIJKLMNOPQRSTUVWXYZabcdefghijklmnopqrstuvwxyz0123456789+/".toList

def digit64 (n : Nat) : Char := (digits64[n % 64]?).getD '='

/-- Bytes by three as digits by four. -/
def encode64 : List Char → List Char
  | [] => []
  | [a] => [digit64 (a.toNat / 4), digit64 (a.toNat % 4 * 16), '=', '=']
  | [a, b] =>
    [digit64 (a.toNat / 4), digit64 (a.toNat % 4 * 16 + b.toNat / 16), digit64 (b.toNat % 16 * 4), '=']
  | a :: b :: c :: rest =>
    digit64 (a.toNat / 4) :: digit64 (a.toNat % 4 * 16 + b.toNat / 16) ::
      digit64 (b.toNat % 16 * 4 + c.toNat / 64) :: digit64 c.toNat :: encode64 rest

/-- Digits by four as bytes by three. -/
def decode64 : List Nat → List Char
  | a :: b :: c :: d :: rest =>
    byteNumber (a * 4 + b / 16) :: byteNumber (b * 16 + c / 4) :: byteNumber (c * 64 + d) :: decode64 rest
  | [a, b, c] => [byteNumber (a * 4 + b / 16), byteNumber (b * 16 + c / 4)]
  | [a, b] => [byteNumber (a * 4 + b / 16)]
  | _ => []

/-- Pieces of a length, the last of which may be shorter. -/
def pieces (width : Nat) : Nat → List Char → List (List Char)
  | 0, s => [s]
  | n + 1, s => if s.isEmpty then [] else s.take width :: pieces width n (s.drop width)

def base64 (found : Options) (paths : List String) : Eval Nat := do
  let (text, good) ← wholeInput "base64" paths
  if hasOption found 'd' then
    let digits := text.filterMap fun c => digits64.idxOf? c
    sayBytes (decode64 digits)
    let strange := text.any fun c => !(digits64.contains c || c == '=' || c == '\n')
    if strange && !hasOption found 'i' then
      warn "base64: invalid input"
      return 1
    return statusOf good
  let width := ((optionValue? found 'w').bind (·.toNat?)).getD 76
  let encoded := encode64 text
  if width = 0 then sayBytes encoded
  else sayBytes (ofLines (pieces width (encoded.length + 1) encoded))
  return statusOf good

def nl (found : Options) (paths : List String) : Eval Nat := do
  let (text, good) ← wholeInput "nl" paths
  let all := optionValue? found 'b' = some "a"
  let mut n := 0
  for line in linesOf text do
    if line.isEmpty && !all then sayLine "       "
    else
      n := n + 1
      sayLine (column 6 n ++ "\t" ++ String.ofList line)
  return statusOf good

/-- Lines joined by separators that are used in turn. -/
def joinInTurn (separators : List Char) : Nat → List (List Char) → List Char
  | _, [] => []
  | _, [line] => line
  | n, line :: rest =>
    line ++ (separators[n % max separators.length 1]?).toList ++ joinInTurn separators (n + 1) rest

def paste (found : Options) (paths : List String) : Eval Nat := do
  let separators := (unescape standardFormat 100 ((optionValue? found 'd').getD "\t").toList).1
  let columns := (orStandardInput paths).length
  let (text, good) ← wholeInput "paste" (orStandardInput paths).eraseDups
  let lines := linesOf text
  if hasOption found 's' then sayBytes (joinInTurn separators 0 lines ++ ['\n'])
  else
    for row in List.range ((lines.length + columns - 1) / columns) do
      let cells := (lines.drop (row * columns)).take columns
      sayBytes (joinInTurn separators 0 (cells ++ List.replicate (columns - cells.length) []) ++ ['\n'])
  return statusOf good

def fold (found : Options) (paths : List String) : Eval Nat := do
  let (text, good) ← wholeInput "fold" paths
  let width := ((optionValue? found 'w').bind (·.toNat?)).getD 80
  let lines := (linesOf text).flatMap fun line =>
    if line.isEmpty then [[]] else pieces (max width 1) (line.length + 1) line
  let output := ofLines lines
  sayBytes (if text.getLast? = some '\n' then output else output.dropLast)
  return statusOf good

def userId (found : Options) (_ : List String) : Eval Nat := do
  let named := hasOption found 'n'
  if ['u', 'g', 'G'].any (hasOption found) then sayLine (if named then "root" else "0")
  else sayLine "uid=0(root) gid=0(root) groups=0(root)"
  return 0

def uname (found : Options) (_ : List String) : Eval Nat := do
  sayLine (if hasOption found 'm' then "x86_64" else "Linux")
  return 0

def forBytes : List Program :=
  [⟨"od", "cxbv", "Atw", 1, od⟩, ⟨"base64", "di", "w", 1, base64⟩, ⟨"nl", "", "bwns", 1, nl⟩,
    ⟨"paste", "sz", "d", 1, paste⟩, ⟨"fold", "bs", "w", 1, fold⟩, ⟨"id", "ugGnr", "", 1, userId⟩,
    ⟨"uname", "asnrvmo", "", 1, uname⟩,
    ⟨"whoami", "", "", 1, fun _ _ => do
      sayLine "root"
      return 0⟩]

end JobMatrix.Script.Program
