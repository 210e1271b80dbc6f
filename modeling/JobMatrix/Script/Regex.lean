import JobMatrix.Script.Pattern
import JobMatrix.Text.Digits

/-!
Regular expressions of scripts, in the basic and in the extended notation. Matching tries the choices of a
repetition from the longest to the shortest.
-/
namespace JobMatrix.Script

inductive Regex
  | nothing
  | any
  | oneOf (negated : Bool) (ranges : List (Char × Char))
  | atStart
  | atEnd
  | sequence (a b : Regex)
  | choice (a b : Regex)
  | repetition (least : Nat) (most : Option Nat) (r : Regex)
  | group (number : Nat) (r : Regex)
  deriving DecidableEq

namespace Regex

/-- What a match has reached: how many characters are behind it, which are left, and its groups. -/
structure Progress where
  position : Nat
  rest : List Char
  groups : List (Nat × List Char)

/-- The first way on which a match goes through to the end of everything that must follow it. -/
def go : Nat → Regex → Progress → (Progress → Option Progress) → Option Progress
  | 0, _, _, _ => none
  | n + 1, r, p, next =>
    match r with
    | nothing => next p
    | any =>
      match p.rest with
      | _ :: rest => next { p with position := p.position + 1, rest := rest }
      | [] => none
    | oneOf negated ranges =>
      match p.rest with
      | c :: rest =>
        if inRanges ranges c != negated then next { p with position := p.position + 1, rest := rest } else none
      | [] => none
    | atStart => if p.position = 0 then next p else none
    | atEnd => if p.rest.isEmpty then next p else none
    | sequence a b => go n a p fun q => go n b q next
    | choice a b => (go n a p next).or (go n b p next)
    | repetition least most r =>
      let more := if most = some 0 then none
        else go n r p fun q =>
          if q.position = p.position ∧ least = 0 then none
          else go n (repetition (least - 1) (most.map (· - 1)) r) q next
      more.or (if least = 0 then next p else none)
    | group number r =>
      go n r p fun q =>
        next { q with groups := (number, p.rest.take (q.position - p.position)) :: q.groups }

/-- A bound on the steps of a match. -/
def stepLimit (s : List Char) : Nat := 64 * (s.length + 64)

def matchAt? (r : Regex) (position : Nat) (s : List Char) : Option Progress :=
  go (stepLimit s) r ⟨position, s, []⟩ some

/-- The first match: what is before it, what it takes, and its end. -/
def find? (r : Regex) : Nat → List Char → Option (List Char × List Char × Progress)
  | position, s =>
    match matchAt? r position s with
    | some p => some ([], s.take (p.position - position), p)
    | none =>
      match s with
      | [] => none
      | c :: rest => (find? r (position + 1) rest).map fun (before, found, p) => (c :: before, found, p)

/-! Reading. A sign has a meaning by itself in one of the notations, and after a backslash in the other. -/

/-- A bound of a repetition, as it is written between braces. -/
def boundsOf? (s : List Char) : Option (Nat × Option Nat) :=
  let least := s.takeWhile Char.isDigit
  match s.drop least.length with
  | [] => (Text.naturalIn? 10 least).map fun n => (n, some n)
  | [','] => (Text.naturalIn? 10 least).map fun n => (n, none)
  | ',' :: most => (Text.naturalIn? 10 most).map fun n => ((Text.naturalIn? 10 least).getD 0, some n)
  | _ => none

/-- A sign of the notation with what follows it: whether it has its meaning, and its character. -/
def signAt (extended : Bool) : List Char → Option (Bool × Char × List Char)
  | [] => none
  | '\\' :: c :: rest => some (!extended && ['(', ')', '\x7b', '\x7d', '|', '+', '?'].contains c, c, rest)
  | c :: rest => some (['*', '.', '^', '$', '['].contains c ||
      (extended && ['(', ')', '\x7b', '|', '+', '?'].contains c), c, rest)

def literal (ignoreCase : Bool) (c : Char) : Regex :=
  if ignoreCase then oneOf false [(c.toLower, c.toLower), (c.toUpper, c.toUpper)] else oneOf false [(c, c)]

/-- The repetitions that follow an expression. -/
def repeated (extended : Bool) : Nat → Regex → List Char → Regex × List Char
  | 0, r, s => (r, s)
  | n + 1, r, s =>
    match signAt extended s with
    | some (true, '*', rest) => repeated extended n (repetition 0 none r) rest
    | some (true, '+', rest) => repeated extended n (repetition 1 none r) rest
    | some (true, '?', rest) => repeated extended n (repetition 0 (some 1) r) rest
    | some (true, '\x7b', rest) =>
      let inside := rest.takeWhile fun c => c.isDigit || c == ','
      match boundsOf? inside with
      | some (least, most) =>
        repeated extended n (repetition least most r) (rest.drop (inside.length + if extended then 1 else 2))
      | none => (r, s)
    | _ => (r, s)

mutual

/-- Alternatives up to a closing parenthesis or the end; `groups` is the number of groups so far. -/
def readChoice (extended ignoreCase : Bool) : Nat → Nat → List Char → Regex × Nat × List Char
  | 0, groups, s => (nothing, groups, s)
  | n + 1, groups, s =>
    let (a, groups, rest) := readSequence extended ignoreCase n groups true s
    match signAt extended rest with
    | some (true, '|', rest) =>
      let (b, groups, rest) := readChoice extended ignoreCase n groups rest
      (choice a b, groups, rest)
    | _ => (a, groups, rest)

def readSequence (extended ignoreCase : Bool) : Nat → Nat → Bool → List Char → Regex × Nat × List Char
  | 0, groups, _, s => (nothing, groups, s)
  | n + 1, groups, first, s =>
    match signAt extended s with
    | none | some (true, '|', _) | some (true, ')', _) => (nothing, groups, s)
    | some (isSign, c, rest) =>
      let (one, groups, rest) := readOne extended ignoreCase n groups first isSign c rest
      let (one, rest) := repeated extended rest.length one rest
      let (later, groups, rest) := readSequence extended ignoreCase n groups false rest
      (sequence one later, groups, rest)

/-- One expression, the first character of which is passed over already. -/
def readOne (extended ignoreCase : Bool) :
    Nat → Nat → Bool → Bool → Char → List Char → Regex × Nat × List Char
  | 0, groups, _, _, _, s => (nothing, groups, s)
  | n + 1, groups, first, isSign, c, rest =>
    if !isSign then (literal ignoreCase c, groups, rest)
    else if c = '.' then (any, groups, rest)
    else if c = '^' ∧ (extended ∨ first) then (atStart, groups, rest)
    else if c = '$' ∧ (extended ∨ rest.isEmpty ∨ ['\\', ')'].isPrefixOf rest) then (atEnd, groups, rest)
    else if c = '(' then
      let (inside, later, rest) := readChoice extended ignoreCase n (groups + 1) rest
      (group (groups + 1) inside, later, rest.drop (if extended then 1 else 2))
    else if c = '[' then
      let (negated, inside) := match rest with
        | '^' :: inside => (true, inside)
        | _ => (false, rest)
      match rangesUpTo (inside.length + 1) true (inside.map (·, false)) with
      | some (ranges, after) =>
        let lower := ranges.map fun (a, b) => (a.toLower, b.toLower)
        let upper := ranges.map fun (a, b) => (a.toUpper, b.toUpper)
        (oneOf negated (if ignoreCase then ranges ++ lower ++ upper else ranges), groups, after.map Prod.fst)
      | none => (literal ignoreCase c, groups, rest)
    else (literal ignoreCase c, groups, rest)

end

/-- The expression that a text is the notation of. -/
def ofText (extended ignoreCase : Bool) (s : List Char) : Regex :=
  (readChoice extended ignoreCase (4 * s.length + 4) 0 s).1

/-- The expression that matches a text and nothing else. -/
def ofLiteral (ignoreCase : Bool) (s : List Char) : Regex :=
  s.foldr (fun c r => sequence (literal ignoreCase c) r) nothing

end Regex
end JobMatrix.Script
