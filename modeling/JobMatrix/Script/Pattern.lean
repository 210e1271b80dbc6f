/-!
Patterns of file names: an asterisk stands for any text, a question mark for any character, and brackets
for one character of a set. Matching is by recursion on the pattern.
-/
namespace JobMatrix.Script

inductive Atom
  | exactly (c : Char)
  | any
  | anything
  | oneOf (negated : Bool) (ranges : List (Char × Char))
  deriving DecidableEq

/-- Whether some end of a text, the whole text included, has a property. -/
def someEnd (p : List Char → Bool) : List Char → Bool
  | [] => p []
  | c :: s => p (c :: s) || someEnd p s

def inRanges (ranges : List (Char × Char)) (c : Char) : Bool := ranges.any fun (a, b) => a ≤ c && c ≤ b

def matchesPattern : List Atom → List Char → Bool
  | [], s => s.isEmpty
  | .anything :: rest, s => someEnd (matchesPattern rest) s
  | .any :: rest, s =>
    match s with
    | _ :: s => matchesPattern rest s
    | [] => false
  | .exactly a :: rest, s =>
    match s with
    | c :: s => a == c && matchesPattern rest s
    | [] => false
  | .oneOf negated ranges :: rest, s =>
    match s with
    | c :: s => (inRanges ranges c != negated) && matchesPattern rest s
    | [] => false

def namedRanges : List (String × List (Char × Char)) :=
  [("alpha", [('a', 'z'), ('A', 'Z')]), ("digit", [('0', '9')]), ("alnum", [('a', 'z'), ('A', 'Z'), ('0', '9')]),
    ("upper", [('A', 'Z')]), ("lower", [('a', 'z')]), ("space", [(' ', ' '), ('\t', '\x0d')]),
    ("blank", [(' ', ' '), ('\t', '\t')]), ("xdigit", [('0', '9'), ('a', 'f'), ('A', 'F')]),
    ("punct", [('!', '/'), (':', '@'), ('[', '\x60'), ('\x7b', '~')]),
    ("cntrl", [('\x00', '\x1f'), ('\x7f', '\x7f')]),
    ("print", [(' ', '~')]), ("graph", [('!', '~')])]

abbrev Marked := Char × Bool

/-- The ranges of a set up to its closing bracket, and what follows it. -/
def rangesUpTo : Nat → Bool → List Marked → Option (List (Char × Char) × List Marked)
  | 0, _, _ | _, _, [] => none
  | n + 1, first, (c, quoted) :: rest =>
    if c = ']' ∧ !quoted ∧ !first then some ([], rest)
    else
      let text := String.ofList (rest.map Prod.fst)
      match if c = '[' then namedRanges.find? fun (name, _) => (":" ++ name ++ ":]").toList.isPrefixOf text.toList
        else none with
      | some (name, ranges) =>
        (rangesUpTo n false (rest.drop (name.length + 3))).map fun (more, after) => (ranges ++ more, after)
      | none =>
        match rest with
        | ('-', false) :: (d, q) :: later =>
          if d = ']' ∧ !q then (rangesUpTo n false rest).map fun (more, after) => ((c, c) :: more, after)
          else (rangesUpTo n false later).map fun (more, after) => ((c, d) :: more, after)
        | _ => (rangesUpTo n false rest).map fun (more, after) => ((c, c) :: more, after)

/-- The pattern that characters form; a quoted character stands for itself. -/
def patternUpTo : Nat → List Marked → List Atom
  | 0, _ | _, [] => []
  | n + 1, (c, true) :: rest => .exactly c :: patternUpTo n rest
  | n + 1, ('*', false) :: rest => .anything :: patternUpTo n rest
  | n + 1, ('?', false) :: rest => .any :: patternUpTo n rest
  | n + 1, ('\\', false) :: (c, _) :: rest => .exactly c :: patternUpTo n rest
  | n + 1, ('[', false) :: rest =>
    let (negated, inside) := match rest with
      | ('!', false) :: inside | ('^', false) :: inside => (true, inside)
      | _ => (false, rest)
    match rangesUpTo (inside.length + 1) true inside with
    | some (ranges, after) => .oneOf negated ranges :: patternUpTo n after
    | none => .exactly '[' :: patternUpTo n rest
  | n + 1, (c, false) :: rest => .exactly c :: patternUpTo n rest

def patternOf (s : List Marked) : List Atom := patternUpTo (s.length + 1) s

/-- A text without its shortest or longest beginning that a pattern matches. -/
def trimStart (longest : Bool) (p : List Atom) (s : List Char) : List Char :=
  let found := (List.range (s.length + 1)).filter fun n => matchesPattern p (s.take n)
  s.drop ((if longest then found.getLast? else found.head?).getD 0)

/-- A text without its shortest or longest end that a pattern matches. -/
def trimEnd (longest : Bool) (p : List Atom) (s : List Char) : List Char :=
  let found := (List.range (s.length + 1)).filter fun n => matchesPattern p (s.drop n)
  s.take ((if longest then found.head? else found.getLast?).getD s.length)

/-- The length of the longest beginning that a pattern matches. -/
def longestMatch? (p : List Atom) (s : List Char) : Option Nat :=
  ((List.range (s.length + 1)).filter fun n => matchesPattern p (s.take n)).getLast?

/-- Occurrences of a pattern replaced from the left, only the first one or all of them. -/
def replaceMatches (all : Bool) (p : List Atom) (substitute : List Char) : Nat → List Char → List Char
  | 0, s => s
  | _ + 1, [] => []
  | n + 1, c :: s =>
    match (longestMatch? p (c :: s)).filter (0 < ·) with
    | none => c :: replaceMatches all p substitute n s
    | some length =>
      let rest := (c :: s).drop length
      substitute ++ if all then replaceMatches all p substitute n rest else rest

end JobMatrix.Script
