import JobMatrix.Script.Escape
import JobMatrix.Script.Regex

/-!
Functions from text to text that programs for text are made of: lines, sets of characters, columns, and
replacement.
-/
namespace JobMatrix.Script.Filter

def linesFrom : List Char → List Char → List (List Char)
  | [], [] => []
  | line, [] => [line.reverse]
  | line, c :: rest => if c = '\n' then line.reverse :: linesFrom [] rest else linesFrom (c :: line) rest

def linesOf (s : List Char) : List (List Char) := linesFrom [] s

def ofLines (lines : List (List Char)) : List Char := lines.flatMap (· ++ ['\n'])

def wordsFrom : List Char → List Char → List (List Char)
  | word, [] => if word.isEmpty then [] else [word.reverse]
  | word, c :: rest =>
    if c.isWhitespace || c == '\x0b' || c == '\x0c' then
      if word.isEmpty then wordsFrom [] rest else word.reverse :: wordsFrom [] rest
    else wordsFrom (c :: word) rest

def wordsOf (s : List Char) : List (List Char) := wordsFrom [] s

/-- The parts of a text between single characters. -/
def splitOn (separator : Char) : List Char → List (List Char)
  | [] => [[]]
  | c :: rest =>
    match splitOn separator rest with
    | part :: parts => if c = separator then [] :: part :: parts else (c :: part) :: parts
    | [] => [[c]]

def lastItems (n : Nat) (xs : List α) : List α := xs.drop (xs.length - n)

/-! Sets of characters. -/

def charsBetween (a b : Char) : List Char :=
  (List.range (b.toNat + 1 - a.toNat)).map fun i => Char.ofNat (a.toNat + i)

/-- The characters of a set; a hyphen stands for a range, and a name between brackets and colons for a class. -/
def setUpTo : Nat → List Char → List Char
  | 0, _ | _, [] => []
  | n + 1, '[' :: ':' :: s =>
    let name := s.takeWhile (· != ':')
    match namedRanges.find? fun (known, _) => known.toList == name with
    | some (_, ranges) => ranges.flatMap (fun (a, b) => charsBetween a b) ++ setUpTo n (s.drop (name.length + 2))
    | none => '[' :: setUpTo n (':' :: s)
  | n + 1, c :: s =>
    let (c, rest) := if c = '\\' then
        match escapeAt? ⟨false, false, true, false, false, ['-', ']', '[']⟩ s with
        | some (.bytes (b :: _) rest) => (b, rest)
        | _ => (c, s)
      else (c, s)
    match rest with
    | '-' :: d :: later =>
      if c ≤ d then charsBetween c d ++ setUpTo n later else c :: setUpTo n rest
    | _ => c :: setUpTo n rest

def charsOf (s : List Char) : List Char := setUpTo (s.length + 1) s

/-- The character in the place that another one has in a set; the last one stands for all later places. -/
def exchanged (set image : List Char) (c : Char) : Char :=
  match set.idxOf? c with
  | some i => (image[i]?).getD (image.getLast?.getD c)
  | none => c

/-- Runs of a character of a set made as short as one character. -/
def squeezed (set : List Char) : Option Char → List Char → List Char
  | _, [] => []
  | last, c :: rest =>
    if last = some c ∧ set.contains c then squeezed set last rest else c :: squeezed set (some c) rest

/-! Columns. -/

def rangesOf? (s : List Char) : Option (List (Nat × Option Nat)) :=
  (splitOn ',' s).mapM fun part =>
    match splitOn '-' part with
    | [a] => (Text.naturalIn? 10 a).map fun n => (n, some n)
    | [[], b] => (Text.naturalIn? 10 b).map fun n => (1, some n)
    | [a, []] => (Text.naturalIn? 10 a).map fun n => (n, none)
    | [a, b] => do return (← Text.naturalIn? 10 a, some (← Text.naturalIn? 10 b))
    | _ => none

/-- The items whose places, counted from one, are in some range. -/
def selected (ranges : List (Nat × Option Nat)) (xs : List α) : List α :=
  (xs.zipIdx 1).filterMap fun (x, i) =>
    if ranges.any fun (a, b) => a ≤ i && b.all (i ≤ ·) then some x else none

/-- The fields of a line in some ranges; a line without the separator is kept as it is. -/
def cutFields (separator : Char) (ranges : List (Nat × Option Nat)) (line : List Char) : List Char :=
  if line.contains separator then
    ((selected ranges (splitOn separator line)).intersperse [separator]).flatten
  else line

/-! Replacement. -/

/-- A replacement in which an ampersand stands for what was found and a number for a group. -/
def filled (found : List Char) (groups : List (Nat × List Char)) : List Char → List Char
  | [] => []
  | '\\' :: c :: rest =>
    (if c.isDigit then if c = '0' then found else ((groups.find? (·.1 == c.toNat - 48)).map (·.2)).getD []
      else if c = 'n' then ['\n'] else [c]) ++ filled found groups rest
  | '&' :: rest => found ++ filled found groups rest
  | c :: rest => c :: filled found groups rest

/-- Matches in a line replaced from the left, and whether there was any. The first `skip` ones stay. -/
def replaced (r : Regex) (replacement : List Char) (all : Bool) (skip : Nat) :
    Nat → Nat → List Char → List Char × Bool
  | 0, _, s => (s, false)
  | n + 1, position, s =>
    match r.find? position s with
    | none => (s, false)
    | some (before, found, p) =>
      let image := if skip = 0 then filled found p.groups replacement else found
      let again := fun (position : Nat) (rest : List Char) =>
        if skip = 0 ∧ !all then (rest, true)
        else replaced r replacement all (skip - 1) n position rest
      match found, p.rest with
      | [], c :: rest =>
        let (later, _) := again (p.position + 1) rest
        (before ++ image ++ c :: later, true)
      | [], [] => (before ++ image, true)
      | _, rest =>
        if rest.isEmpty then (before ++ image, true)
        else
          let (later, _) := again p.position rest
          (before ++ image ++ later, true)

/-- A line, or each of its matches if only these are wanted. -/
def matchesIn (r : Regex) : Nat → Nat → List Char → List (List Char)
  | 0, _, _ => []
  | n + 1, position, s =>
    match r.find? position s with
    | none => []
    | some (_, found, p) =>
      match found, p.rest with
      | [], [] => []
      | [], _ :: rest => matchesIn r n (p.position + 1) rest
      | _, rest => found :: matchesIn r n p.position rest

def leadingNumber (line : List Char) : Int :=
  match line.dropWhile fun c => c == ' ' || c == '\t' with
  | '-' :: s => -(((Text.naturalIn? 10 (s.takeWhile Char.isDigit)).getD 0 : Nat) : Int)
  | s => ((Text.naturalIn? 10 (s.takeWhile Char.isDigit)).getD 0 : Nat)

def counted : List (List Char) → List (Nat × List Char)
  | [] => []
  | line :: rest =>
    match counted rest with
    | (n, other) :: later => if line = other then (n + 1, line) :: later else (1, line) :: (n, other) :: later
    | [] => [(1, line)]

def column (width n : Nat) : String :=
  let digits := toString n
  String.ofList (List.replicate (width - digits.length) ' ') ++ digits

end JobMatrix.Script.Filter
