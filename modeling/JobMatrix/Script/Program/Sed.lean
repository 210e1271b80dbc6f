import JobMatrix.Script.Program

/-!
A line editor: every line goes through the commands of a program, each of which applies to the lines that its
address names.
-/
namespace JobMatrix.Script.Sed
open Eval Script.Filter Program

/-- What names a line. -/
inductive Address
  | line (n : Nat)
  | last
  | matching (r : Regex)

/-- What is done with a line. -/
inductive Action
  | substitute (r : Regex) (replacement : List Char) (all shown : Bool) (skip : Nat)
  | delete
  | show
  | quit
  | exchange (set image : List Char)
  | insert (text : List Char)
  | append (text : List Char)
  | change (text : List Char)
  | number

/-- A command: its addresses, of which two name a range, whether they are meant to name the other lines, and what
is done. -/
structure Rule where
  first : Option Address
  second : Option Address
  negated : Bool
  action : Action

/-- The text up to a separator, in which a backslash protects the separator. -/
def delimited (separator : Char) : List Char → Option (List Char × List Char)
  | [] => none
  | '\\' :: c :: rest =>
    (delimited separator rest).map fun (a, b) =>
      (if c = separator then (c :: a, b) else if c = 'n' then ('\n' :: a, b) else ('\\' :: c :: a, b))
  | c :: rest =>
    if c = separator then some ([], rest) else (delimited separator rest).map fun (a, b) => (c :: a, b)

/-- An address, if one comes next. -/
def addressAt (extended : Bool) (s : List Char) : Option Address × List Char :=
  match s with
  | '$' :: rest => (some .last, rest)
  | '/' :: rest =>
    match delimited '/' rest with
    | some (pattern, rest) => (some (.matching (Regex.ofText extended false pattern)), rest)
    | none => (none, s)
  | _ =>
    let digits := s.takeWhile Char.isDigit
    match Text.naturalIn? 10 digits with
    | some n => (some (.line n), s.drop digits.length)
    | none => (none, s)

/-- The action that a letter and what follows it stand for. -/
def actionAt? (extended : Bool) : List Char → Option (Action × List Char)
  | 's' :: separator :: rest => do
    let (pattern, rest) ← delimited separator rest
    let (replacement, rest) ← delimited separator rest
    let flags := rest.takeWhile fun c => c.isAlphanum
    let digits := flags.filter Char.isDigit
    let r := Regex.ofText extended (flags.contains 'I' || flags.contains 'i') pattern
    let place := (Text.naturalIn? 10 digits).getD 1
    return (.substitute r replacement (flags.contains 'g') (flags.contains 'p') (place - 1), rest.drop flags.length)
  | 'y' :: separator :: rest => do
    let (set, rest) ← delimited separator rest
    let (image, rest) ← delimited separator rest
    return (.exchange set image, rest)
  | 'd' :: rest => some (.delete, rest)
  | 'p' :: rest => some (.show, rest)
  | 'q' :: rest => some (.quit, rest)
  | '=' :: rest => some (.number, rest)
  | c :: rest =>
    let text := (rest.dropWhile fun c => c == ' ' || c == '\\').takeWhile (· != '\n')
    let after := (rest.dropWhile (· != '\n'))
    if c = 'i' then some (.insert text, after)
    else if c = 'a' then some (.append text, after)
    else if c = 'c' then some (.change text, after)
    else none
  | [] => none

def rulesOf? (extended : Bool) : Nat → List Char → Option (List Rule)
  | 0, _ => none
  | n + 1, s =>
    let s := s.dropWhile fun c => c == ' ' || c == ';' || c == '\n'
    if s.isEmpty then some []
    else do
      let (first, rest) := addressAt extended s
      let (second, rest) := match rest with
        | ',' :: rest => addressAt extended rest
        | _ => (none, rest)
      let rest := rest.dropWhile (· == ' ')
      let (negated, rest) := match rest with
        | '!' :: rest => (true, rest.dropWhile (· == ' '))
        | _ => (false, rest)
      let (action, rest) ← actionAt? extended rest
      return ⟨first, second, negated, action⟩ :: (← rulesOf? extended n rest)

def Address.holds (line : List Char) (n : Nat) (isLast : Bool) : Address → Bool
  | .line m => n == m
  | .last => isLast
  | .matching r => (r.find? 0 line).isSome

/-- Whether a rule applies to a line, and whether its range goes on after it. -/
def Rule.applies (r : Rule) (isOpen : Bool) (line : List Char) (n : Nat) (isLast : Bool) : Bool × Bool :=
  let (inside, goesOn) := match r.first, r.second with
    | none, _ => (true, false)
    | some a, none => (a.holds line n isLast, false)
    | some a, some b =>
      if isOpen then (true, !b.holds line n isLast)
      else if a.holds line n isLast then
        (true, match b with
          | .line m => n < m
          | _ => true)
      else (false, false)
  (inside != r.negated, goesOn)

/-- A line on its way through the rules: its text, whether it is still there, what is printed before it and after
it, and whether the program ends. -/
structure Passage where
  text : List Char
  isThere : Bool
  before : List (List Char)
  after : List (List Char)
  quits : Bool

def act (p : Passage) (n : Nat) : Action → Passage
  | .substitute r replacement all shown skip =>
    let (text, changed) := replaced r replacement all skip (p.text.length + 1) 0 p.text
    { p with text := text, before := if changed && shown then p.before ++ [text] else p.before }
  | .delete => { p with isThere := false }
  | .show => { p with before := p.before ++ [p.text] }
  | .quit => { p with quits := true }
  | .exchange set image => { p with text := p.text.map (exchanged set image) }
  | .insert text => { p with before := p.before ++ [text] }
  | .append text => { p with after := p.after ++ [text] }
  | .change text => { p with isThere := false, after := p.after ++ [text] }
  | .number => { p with before := p.before ++ [(toString n).toList] }

/-- A line through all rules; every rule keeps whether its range is open. -/
def pass (n : Nat) (isLast : Bool) : List (Rule × Bool) → Passage → Passage × List (Rule × Bool)
  | [], p => (p, [])
  | (r, isOpen) :: rest, p =>
    if !p.isThere || p.quits then (p, (r, isOpen) :: rest)
    else
      let (applies, goesOn) := r.applies isOpen p.text n isLast
      let p := if applies then act p n r.action else p
      let (p, rest) := pass n isLast rest p
      (p, (r, goesOn) :: rest)

/-- All lines through the rules. -/
def edit (quiet : Bool) : List (Rule × Bool) → Nat → List (List Char) → List (List Char)
  | _, _, [] => []
  | rules, n, line :: rest =>
    let (p, rules) := pass n rest.isEmpty rules ⟨line, true, [], [], false⟩
    let shown := p.before ++ (if p.isThere && !quiet then [p.text] else []) ++ p.after
    if p.quits then shown else shown ++ edit quiet rules (n + 1) rest

def run (arguments : List String) : Eval Nat := do
  let (found, others) := options ['e'] arguments
  let extended := hasOption found 'E' || hasOption found 'r'
  let (programs, paths) : List String × List String := match found.filter (·.1 == 'e') with
    | [] => (others.take 1, others.drop 1)
    | given => (given.map fun (_, program) => program, others)
  let program := (Text.joinWith "\n" programs).toList
  match rulesOf? extended (program.length + 1) program with
  | none =>
    warn s!"sed: -e expression #1, char {program.length}: unknown command"
    return 1
  | some rules =>
    let complaint := fun (path message : String) =>
      if message = "Is a directory" then "sed: read error on " ++ path ++ ": " ++ message
      else "sed: can't read " ++ path ++ ": " ++ message
    let (texts, good) ← inputs complaint none (orStandardInput paths)
    let text := texts.flatMap (·.2)
    let lines := edit (hasOption found 'n') (rules.map (·, false)) 1 (linesOf text)
    let output := ofLines lines
    let isOpen := text.getLast?.any (· != '\n')
    sayBytes (if isOpen then output.dropLast else output)
    return if good then 0 else 2

end JobMatrix.Script.Sed
