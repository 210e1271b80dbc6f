import JobMatrix.Script.Program

/-!
Programs that pass lines on: some of them, in another order, or changed.
-/
namespace JobMatrix.Script.Program
open Eval Script.Filter

/-- A byte as it is shown: a caret before a control character, and a mark before a byte of the upper half. -/
def visible (tabs : Bool) (c : Char) : List Char :=
  let low := fun (n : Nat) =>
    if n = 9 ∧ !tabs ∨ n = 10 then [Char.ofNat n]
    else if n < 32 then ['^', Char.ofNat (n + 64)]
    else if n = 127 then ['^', '?'] else [Char.ofNat n]
  if c.toNat < 128 then low c.toNat
  else 'M' :: '-' :: (if c.toNat < 160 then ['^', Char.ofNat (c.toNat - 64)]
    else if c.toNat = 255 then ['^', '?'] else [Char.ofNat (c.toNat - 128)])

def cat (found : Options) (paths : List String) : Eval Nat := do
  let has := hasOption found
  let (text, good) ← wholeInput "cat" paths
  let all := has 'A'
  let text := if all || has 'v' || has 'e' || has 't' then text.flatMap (visible (all || has 't' || has 'T'))
    else if has 'T' then text.flatMap fun c => if c = '\t' then ['^', 'I'] else [c]
    else text
  let text := if all || has 'E' || has 'e' then text.flatMap fun c => if c = '\n' then ['$', c] else [c] else text
  if has 'n' then
    let lines := (linesOf text).zipIdx 1 |>.flatMap fun (line, i) => (column 6 i).toList ++ '\t' :: line ++ ['\n']
    sayBytes (if text.getLast? = some '\n' then lines else lines.dropLast)
  else sayBytes text
  return statusOf good

def signedNumber (text : String) : Char × Nat :=
  match text.toList with
  | '-' :: s => ('-', (Text.naturalIn? 10 s).getD 0)
  | '+' :: s => ('+', (Text.naturalIn? 10 s).getD 0)
  | s => (' ', (Text.naturalIn? 10 s).getD 0)

/-- The beginning or the end of every input. -/
def part (program : String) (ofBytes ofLines' : List Char → List Char) (count : Option Nat)
    (byBytes : Bool) (paths : List String) : Eval Nat := do
  let complaint := fun (path message : String) =>
    if message = "Is a directory" then s!"{program}: error reading '{path}': {message}"
    else s!"{program}: cannot open '{path}' for reading: {message}"
  let (texts, good) ← inputs complaint count (orStandardInput paths)
  let several := paths.length > 1
  for ((path, text), i) in texts.zipIdx do
    if several then say ((if i = 0 then "" else "\n") ++ s!"==> {path} <==\n")
    sayBytes ((if byBytes then ofBytes else ofLines') text)
  return statusOf good

def firstLines : Nat → List Char → List Char
  | 0, _ | _, [] => []
  | n + 1, c :: s => if c = '\n' then c :: firstLines n s else c :: firstLines (n + 1) s

/-- The text after its first lines. -/
def withoutLines : Nat → List Char → List Char
  | 0, s => s
  | _, [] => []
  | n + 1, c :: s => if c = '\n' then withoutLines n s else withoutLines (n + 1) s

/-- The option with a text that is no number, if there is one. -/
def badCount? (program : String) (found : Options) : Option String :=
  (found.find? fun (_, text) =>
    let s := match text.toList with
      | '-' :: s | '+' :: s => s
      | s => s
    (Text.naturalIn? 10 s).isNone).map fun (c, text) =>
      program ++ ": invalid number of " ++ (if c = 'n' then "lines" else "bytes") ++ ": '" ++ text ++ "'"

def head (found : Options) (paths : List String) : Eval Nat := do
  if let some message := badCount? "head" (found.filter fun (c, _) => c == 'n' || c == 'c') then
    warn message
    return 1
  let (sign, n) := signedNumber ((optionValue? found 'n').getD "10")
  match optionValue? found 'c' with
  | some text =>
    let (sign, n) := signedNumber text
    if sign = '-' then part "head" (fun s => s.take (s.length - n)) id none true paths
    else part "head" (·.take n) id (some n) true paths
  | none =>
    part "head" id (fun s => firstLines (if sign = '-' then (linesOf s).length - n else n) s) none false paths

def tail (found : Options) (paths : List String) : Eval Nat := do
  if let some message := badCount? "tail" (found.filter fun (c, _) => c == 'n' || c == 'c') then
    warn message
    return 1
  let (sign, n) := signedNumber ((optionValue? found 'n').getD "10")
  match optionValue? found 'c' with
  | some text =>
    let (sign, n) := signedNumber text
    part "tail" (if sign = '+' then (·.drop (n - 1)) else lastItems n) id none true paths
  | none =>
    part "tail" id
      (fun s => withoutLines (if sign = '+' then n - 1 else (linesOf s).length - n) s) none false paths

def wc (found : Options) (paths : List String) : Eval Nat := do
  let (texts, good) ← inputs (plainComplaint "wc") none (orStandardInput paths)
  let all := !(['l', 'w', 'c', 'm', 'L'].any (hasOption found))
  let counts := fun (s : List Char) =>
    (if all || hasOption found 'l' then [s.count '\n'] else []) ++
      (if all || hasOption found 'w' then [(wordsOf s).length] else []) ++
      (if all || hasOption found 'c' || hasOption found 'm' then [s.length] else []) ++
      (if hasOption found 'L' then [((linesOf s).map List.length).foldl max 0] else [])
  let total := counts (texts.flatMap (·.2))
  let width := if total.length ≤ 1 ∧ texts.length ≤ 1 then 1
    else if paths.isEmpty then 7 else (toString (texts.flatMap (·.2)).length).length
  for (path, text) in texts do
    let columns := Text.joinWith " " ((counts text).map (column width))
    sayLine (if paths.isEmpty then columns else columns ++ " " ++ path)
  if texts.length > 1 then sayLine (Text.joinWith " " (total.map (column width)) ++ " total")
  return statusOf good

def tr (found : Options) (sets : List String) : Eval Nat := do
  if sets.isEmpty then return ← misused "tr" "missing operand" 1
  if sets.length = 1 && !hasOption found 'd' && !hasOption found 's' then
    return ← misused "tr"
      ("missing operand after '" ++ sets.headD "" ++ "'\nTwo strings must be given when translating.") 1
  let text ← readAll
  let complemented := fun (set : List Char) =>
    if hasOption found 'c' || hasOption found 'C' then
      (charsBetween '\x00' (Char.ofNat 255)).filter (!set.contains ·)
    else set
  match sets.map fun s => charsOf s.toList with
  | [first] =>
    let set := complemented first
    if hasOption found 'd' then sayBytes (text.filter (!set.contains ·))
    else sayBytes (squeezed set none text)
    return 0
  | [first, second] =>
    let set := complemented first
    if hasOption found 'd' then sayBytes (squeezed second none (text.filter (!set.contains ·)))
    else
      let image := text.map (exchanged set second)
      sayBytes (if hasOption found 's' then squeezed second none image else image)
    return 0
  | _ => misused "tr" ("extra operand '" ++ (sets[2]?).getD "" ++ "'") 1

/-- Whether a match takes a whole line, or is between characters of no word. -/
def isWanted (whole asWord : Bool) (line : List Char) (before found : List Char) : Bool :=
  let after := line.drop (before.length + found.length)
  let isWordChar := fun (c : Char) => c.isAlphanum || c == '_'
  (!whole || (before.isEmpty && after.isEmpty)) &&
    (!asWord || (!before.getLast?.any isWordChar && !after.head?.any isWordChar))

def grep (found : Options) (others : List String) : Eval Nat := do
  let has := hasOption found
  let (patterns, paths) : List String × List String := match found.filter (·.1 == 'e') with
    | [] => (others.take 1, others.drop 1)
    | given => (given.map fun (_, pattern) => pattern, others)
  if patterns.isEmpty then
    warn "Usage: grep [OPTION]... PATTERNS [FILE]...\nTry 'grep --help' for more information."
    return 2
  let expression := fun (s : List Char) =>
    if has 'F' then Regex.ofLiteral (has 'i') s else Regex.ofText (has 'E') (has 'i') s
  let alternatives := (patterns.flatMap fun p => splitOn '\n' p.toList).map expression
  let isSelected := fun (line : List Char) =>
    (alternatives.any fun r =>
      match (if has 'x' then Regex.sequence .atStart (.sequence r .atEnd) else r).find? 0 line with
      | some (before, found, _) => isWanted (has 'x') (has 'w') line before found
      | none => false) != has 'v'
  let (texts, good) ← inputs (fun path message => "grep: " ++ path ++ ": " ++ message) none (orStandardInput paths)
  let mut any := false
  for (path, text) in texts do
    let label := if paths.length > 1 && !has 'h' then path ++ ":" else ""
    let lines := (linesOf text).zipIdx 1 |>.filter fun (line, _) => isSelected line
    let lines := match optionValue? found 'm' with
      | some n => lines.take (n.toNat?.getD lines.length)
      | none => lines
    if !lines.isEmpty then any := true
    if has 'q' then pure ()
    else if has 'c' then sayLine (label ++ toString lines.length)
    else if has 'l' then
      if !lines.isEmpty then sayLine path
    else for (line, i) in lines do
      let place := label ++ if has 'n' then toString i ++ ":" else ""
      if has 'o' then
        for m in alternatives.flatMap fun r => matchesIn r (line.length + 1) 0 line do
          sayLine (place ++ String.ofList m)
      else sayLine (place ++ String.ofList line)
  return if !good && !(has 'q' && any) then 2 else if any then 0 else 1

/-- The fields of a line from one on, as far as they count for sorting. -/
def sortKey (separator : Option Char) (start : Nat) (line : List Char) : List Char :=
  match separator with
  | some c => ([c].intercalate ((splitOn c line).drop (start - 1)))
  | none => ([' '].intercalate ((wordsOf line).drop (start - 1)))

def sort (found : Options) (paths : List String) : Eval Nat := do
  let (texts, good) ← inputs (fun path message => "sort: cannot read: " ++ path ++ ": " ++ message) none
    (orStandardInput paths)
  let text := texts.flatMap fun (_, text) => ofLines (linesOf text)
  let numeric := hasOption found 'n'
  let key := fun (line : List Char) =>
    match optionValue? found 'k' with
    | some k =>
      let start := (Text.naturalIn? 10 (k.toList.takeWhile Char.isDigit)).getD 1
      sortKey ((optionValue? found 't').bind (·.toList.head?)) start line
    | none => line
  let precedes := fun (a b : List Char) =>
    let (k, l) := (key a, key b)
    let (x, y) := (leadingNumber k, leadingNumber l)
    if numeric && x != y then x < y
    else if !numeric && k != l then String.ofList k ≤ String.ofList l
    else String.ofList a ≤ String.ofList b
  let sorted := (linesOf text).mergeSort fun a b =>
    if hasOption found 'r' then precedes b a else precedes a b
  let lines := if hasOption found 'u' then (counted sorted).map (·.2) else sorted
  sayBytes (ofLines lines)
  return if good then 0 else 2

def uniq (found : Options) (paths : List String) : Eval Nat := do
  let (text, good) ← wholeInput "uniq" paths
  for (n, line) in counted (linesOf text) do
    let wanted := (!hasOption found 'd' || n > 1) && (!hasOption found 'u' || n = 1)
    if wanted then
      sayLine ((if hasOption found 'c' then column 7 n ++ " " else "") ++ String.ofList line)
  return statusOf good

def cut (found : Options) (paths : List String) : Eval Nat := do
  if !(['f', 'c', 'b'].any (hasOption found)) then
    return ← misused "cut" "you must specify a list of bytes, characters, or fields" 1
  let (text, good) ← wholeInput "cut" paths
  let separator := (((optionValue? found 'd').getD "\t").toList.head?).getD '\x00'
  let ranges := fun (s : String) => (rangesOf? s.toList).getD []
  let lines := (linesOf text).map fun line =>
    match optionValue? found 'f', (optionValue? found 'c').or (optionValue? found 'b') with
    | some fields, _ => cutFields separator (ranges fields) line
    | none, some columns => selected (ranges columns) line
    | none, none => line
  let isCut := fun (pair : List Char × List Char) => !hasOption found 's' || pair.2.contains separator
  let lines := ((lines.zip (linesOf text)).filter isCut).map (·.1)
  sayBytes (ofLines lines)
  return statusOf good

def rev (arguments : List String) : Eval Nat := do
  let (text, good) ← wholeInput "rev" arguments
  sayBytes (ofLines ((linesOf text).map List.reverse))
  return statusOf good

def tac (arguments : List String) : Eval Nat := do
  let (text, good) ← wholeInput "tac" arguments
  sayBytes (ofLines (linesOf text).reverse)
  return statusOf good

def forLines : List Program :=
  [⟨"cat", "vneEtTAsbu", "", 1, cat⟩, ⟨"head", "qv", "nc", 1, head⟩, ⟨"tail", "qvfF", "nc", 1, tail⟩,
    ⟨"wc", "lwcmL", "", 1, wc⟩, ⟨"tr", "dscCt", "", 1, tr⟩,
    ⟨"grep", "cvilqnohEFGwxsaHr", "emABC", 2, grep⟩,
    ⟨"sort", "nrubfgVs", "kto", 2, sort⟩, ⟨"uniq", "cdui", "", 1, uniq⟩, ⟨"cut", "s", "dfcb", 1, cut⟩,
    ⟨"rev", "", "", 1, fun _ => rev⟩, ⟨"tac", "", "", 1, fun _ => tac⟩]

end JobMatrix.Script.Program
